import Mathlib.Data.Nat.Find
import Libradio.Lib.Radio

/-!
# The exchange with the radio, byte by byte

`src/lib/packet.c:70-116`: `pkt_send` shifts a command out, polls for clear-to-send and
shifts the reply in. `spi_byte` belongs to another library, so it is a parameter here: it
shifts one byte out and answers with the byte shifted in, or fails. What it is given can be
recorded on the way.
-/

namespace Libradio

/-- The size of `pkt_data`, `src/lib/internal.h:39`. -/
abbrev MAX_SPI_BLOCK : Nat := 20

/-- `MAX_COUNT`, `src/lib/packet.c:44`. -/
abbrev MAX_COUNT : Nat := 1000

/-- `spi_byte`: one byte out and one in, with the slave-select pin at the level `ss`; `none` is
the negative answer of a failure. -/
abbrev SpiByte (τ : Type) := (ss : Bool) → τ → UInt8 → τ × Option UInt8

/-- The bus to the radio: what is behind `spi_byte`, the level of the slave-select pin and
the buffer `pkt_data` of `src/lib/packet.c:50`. -/
structure Bus (τ : Type) where
  chip : τ
  ss : Bool
  pktData : Vector UInt8 MAX_SPI_BLOCK

variable {τ : Type}

namespace Bus

/-- The pin is active low, so the radio is deselected while it is high. -/
def Released (u : Bus τ) : Prop := u.ss = true

/-- `_setss`, `src/lib/setss.S:54-69`. -/
def setss (on : Bool) (u : Bus τ) : Bus τ := { u with ss := !on }

/-- One call of `spi_byte`. -/
def shift (spi : SpiByte τ) (byte : UInt8) (u : Bus τ) : Bus τ × Option UInt8 :=
  ({ u with chip := (spi u.ss u.chip byte).1 }, (spi u.ss u.chip byte).2)

/-- `pkt_data[j] = k`. -/
def store (j : Nat) (k : UInt8) (u : Bus τ) : Bus τ :=
  { u with pktData := u.pktData.setIfInBounds j k }

end Bus

/-- The loop that writes the command, `src/lib/packet.c:79-84`. -/
def writeBytes (spi : SpiByte τ) : List UInt8 → Bus τ → Bus τ × Bool
  | [], u => (u, true)
  | byte :: rest, u =>
    match u.shift spi byte with
    | (u, some _) => writeBytes spi rest u
    | (u, none) => (u, false)

/-- The loop that reads the reply from index `j` on, `src/lib/packet.c:100-106`, with `n`
bytes still to come. -/
def readReply (spi : SpiByte τ) : (n j : Nat) → Bus τ → Bus τ × Bool
  | 0, _, u => (u, true)
  | n + 1, j, u =>
    match u.shift spi 0xff with
    | (u, some k) => readReply spi n (j + 1) (u.store j k)
    | (u, none) => (u, false)

/-- The polling loop, `src/lib/packet.c:86-114`, with `tries` polls left. -/
def awaitClear (spi : SpiByte τ) (recvLen : Nat) : (tries : Nat) → Bus τ →
    Bus τ × Except SpiError Unit
  | 0, u => (u, .error .timeout)
  | tries + 1, u =>
    match (u.setss true).shift spi 0x44 with
    | (u, none) => (u.setss false, .error .statusFail)
    | (u, some _) =>
      match u.shift spi 0xff with
      | (u, none) => (u.setss false, .error .ackFail)
      | (u, some k) =>
        if k = 0xff then
          match readReply spi recvLen 0 u with
          | (u, true) => (u.setss false, .ok ())
          | (u, false) => (u.setss false, .error .readFail)
        else awaitClear spi recvLen tries (u.setss false)

/-- `pkt_send`, `src/lib/packet.c:70-116`. -/
def pktSend (spi : SpiByte τ) (sendLen recvLen : Nat) (u : Bus τ) :
    Bus τ × Except SpiError Unit :=
  match writeBytes spi (u.pktData.toList.take sendLen) (u.setss true) with
  | (u, false) => (u.setss false, .error .writeFail)
  | (u, true) => awaitClear spi recvLen MAX_COUNT (u.setss false)

section Pin

variable (spi : SpiByte τ)

/-- A bus without slave-select is released. -/
@[simp]
theorem Bus.released_setss_false (u : Bus τ) : (u.setss false).Released := rfl

/-- Slave-select leaves the buffer alone. -/
@[simp]
theorem Bus.pktData_setss (on : Bool) (u : Bus τ) : (u.setss on).pktData = u.pktData := rfl

/-- Slave-select leaves the radio alone. -/
@[simp]
theorem Bus.chip_setss (on : Bool) (u : Bus τ) : (u.setss on).chip = u.chip := rfl

/-- The polling loop deselects the radio on each of its exits. -/
theorem released_awaitClear (recvLen tries : Nat) (u : Bus τ) (h : u.Released) :
    (awaitClear spi recvLen tries u).1.Released := by
  induction tries generalizing u with
  | zero => exact h
  | succ tries ih =>
    simp only [awaitClear]
    split
    · exact Bus.released_setss_false _
    · split
      · exact Bus.released_setss_false _
      · split
        · split <;> exact Bus.released_setss_false _
        · exact ih _ (Bus.released_setss_false _)

/-- So does the whole exchange, whatever the pin was before. -/
theorem released_pktSend (sendLen recvLen : Nat) (u : Bus τ) :
    (pktSend spi sendLen recvLen u).1.Released := by
  simp only [pktSend]
  split
  · exact Bus.released_setss_false _
  · exact released_awaitClear spi recvLen MAX_COUNT _ (Bus.released_setss_false _)

end Pin

/-! ### One `spi_byte` for another -/

section Simulation

variable {υ : Type} {spi : SpiByte τ} {spi' : SpiByte υ} {f : τ → υ}

/-- The bus with another driver behind it. -/
def Bus.map (f : τ → υ) (u : Bus τ) : Bus υ := ⟨f u.chip, u.ss, u.pktData⟩

/-- The second `spi_byte` does on the image of a state what the first one does on the state. -/
def SpiByte.Follows (spi' : SpiByte υ) (f : τ → υ) (spi : SpiByte τ) : Prop :=
  ∀ ss w byte, spi' ss (f w) byte = (f (spi ss w byte).1, (spi ss w byte).2)

variable (h : spi'.Follows f spi)

include h

private theorem shift_map (byte : UInt8) (u : Bus τ) :
    (u.map f).shift spi' byte = ((u.shift spi byte).1.map f, (u.shift spi byte).2) := by
  unfold Bus.shift Bus.map
  dsimp only
  rw [h]

private theorem writeBytes_map (bytes : List UInt8) (u : Bus τ) :
    writeBytes spi' bytes (u.map f) =
      ((writeBytes spi bytes u).1.map f, (writeBytes spi bytes u).2) := by
  induction bytes generalizing u with
  | nil => rfl
  | cons byte rest ih =>
    rw [writeBytes, writeBytes, shift_map h]
    generalize u.shift spi byte = r
    obtain ⟨v, answer⟩ := r
    cases answer with
    | none => rfl
    | some _ => exact ih v

private theorem readReply_map (n j : Nat) (u : Bus τ) :
    readReply spi' n j (u.map f) =
      ((readReply spi n j u).1.map f, (readReply spi n j u).2) := by
  induction n generalizing j u with
  | zero => rfl
  | succ n ih =>
    rw [readReply, readReply, shift_map h]
    generalize u.shift spi 0xff = r
    obtain ⟨v, answer⟩ := r
    cases answer with
    | none => rfl
    | some k => exact ih (j + 1) (v.store j k)

private theorem awaitClear_map (recvLen tries : Nat) (u : Bus τ) :
    awaitClear spi' recvLen tries (u.map f) =
      ((awaitClear spi recvLen tries u).1.map f, (awaitClear spi recvLen tries u).2) := by
  induction tries generalizing u with
  | zero => rfl
  | succ tries ih =>
    have hset (on : Bool) (v : Bus τ) : (v.map f).setss on = (v.setss on).map f := rfl
    rw [awaitClear, awaitClear, hset, shift_map h]
    generalize (u.setss true).shift spi 0x44 = r
    obtain ⟨v, answer⟩ := r
    cases answer with
    | none => rfl
    | some _ =>
      dsimp only
      rw [shift_map h]
      generalize v.shift spi 0xff = r
      obtain ⟨v, answer⟩ := r
      cases answer with
      | none => rfl
      | some k =>
        dsimp only
        by_cases hk : k = 0xff
        · rw [if_pos hk, if_pos hk, readReply_map h]
          generalize readReply spi recvLen 0 v = r
          obtain ⟨v, done⟩ := r
          cases done <;> rfl
        · rw [if_neg hk, if_neg hk]
          exact ih (v.setss false)

/-- So the exchanges are the same. -/
theorem pktSend_map (sendLen recvLen : Nat) (u : Bus τ) :
    pktSend spi' sendLen recvLen (u.map f) =
      ((pktSend spi sendLen recvLen u).1.map f, (pktSend spi sendLen recvLen u).2) := by
  have hset (on : Bool) (v : Bus τ) : (v.map f).setss on = (v.setss on).map f := rfl
  have hdata : (u.map f).pktData = u.pktData := rfl
  rw [pktSend, pktSend, hset, hdata, writeBytes_map h]
  generalize writeBytes spi (u.pktData.toList.take sendLen) (u.setss true) = r
  obtain ⟨v, done⟩ := r
  cases done with
  | false => rfl
  | true => exact awaitClear_map h recvLen MAX_COUNT (v.setss false)

end Simulation

/-! ### What is shifted out -/

/-- A byte given to `spi_byte`, and whether the radio was selected. -/
structure Shift where
  selected : Bool
  byte : UInt8
  deriving DecidableEq, Repr

/-- `spi_byte` keeps a record of the bytes that it is given. -/
def SpiByte.Records (spi : SpiByte τ) (log : τ → List Shift) : Prop :=
  ∀ ss w byte, log (spi ss w byte).1 = log w ++ [⟨!ss, byte⟩]

/-- A `spi_byte` with a record. -/
def recorded (spi : SpiByte τ) : SpiByte (τ × List Shift) := fun ss w byte ↦
  (((spi ss w.1 byte).1, w.2 ++ [⟨!ss, byte⟩]), (spi ss w.1 byte).2)

/-- The record is kept. -/
theorem records_recorded (spi : SpiByte τ) : (recorded spi).Records Prod.snd := fun _ _ _ ↦ rfl

/-- The bytes of an exchange: the command, `polls` polls and `n` bytes for the reply, all of them
with the radio selected. -/
def exchanged (cmd : List UInt8) (polls n : Nat) : List Shift :=
  (cmd ++ ((List.replicate polls [0x44, 0xff]).flatten ++ List.replicate n 0xff)).map
    (Shift.mk true)

/-- An exchange has two bytes for each poll. -/
theorem length_exchanged (cmd : List UInt8) (polls n : Nat) :
    (exchanged cmd polls n).length = cmd.length + 2 * polls + n := by
  have hpolls : ((List.replicate polls [(0x44 : UInt8), 0xff]).flatten).length = 2 * polls := by
    simp [Nat.mul_comm]
  rw [exchanged, List.length_map, List.length_append, List.length_append, hpolls,
    List.length_replicate]
  omega

-- One more poll in front of an exchange that has begun.
private theorem begins_poll {n recvLen : Nat} {more : List Shift}
    (h : more <+: exchanged [] n recvLen) :
    [⟨true, 0x44⟩, ⟨true, 0xff⟩] ++ more <+: exchanged [] (n + 1) recvLen := by
  obtain ⟨tail, htail⟩ := h
  refine ⟨tail, ?_⟩
  rw [List.append_assoc, htail]
  rfl

-- The first bytes of a reply.
private theorem begins_reply {m recvLen : Nat} (h : m ≤ recvLen) :
    List.replicate m ⟨true, 0xff⟩ <+: exchanged [] 0 recvLen := by
  have hreply : exchanged [] 0 recvLen = List.replicate recvLen ⟨true, 0xff⟩ := by
    simp [exchanged]
  rw [hreply]
  refine ⟨List.replicate (recvLen - m) ⟨true, 0xff⟩, ?_⟩
  rw [List.replicate_append_replicate, Nat.add_sub_cancel' h]

section Record

variable {spi : SpiByte τ} {log : τ → List Shift} (hspi : spi.Records log)

include hspi

-- A shift adds its byte to the record.
private theorem log_shift (byte : UInt8) (u : Bus τ) :
    log (u.shift spi byte).1.chip = log u.chip ++ [⟨!u.ss, byte⟩] := hspi u.ss u.chip byte

/-- The bytes of a command are shifted out in order, all of them if none fails. -/
theorem shifts_writeBytes (bytes : List UInt8) (u : Bus τ) :
    ∃ sent, sent <+: bytes ∧
      log (writeBytes spi bytes u).1.chip = log u.chip ++ sent.map (Shift.mk !u.ss) ∧
      ((writeBytes spi bytes u).2 = true → sent = bytes) := by
  induction bytes generalizing u with
  | nil => exact ⟨[], List.prefix_rfl, (List.append_nil _).symm, fun _ ↦ rfl⟩
  | cons byte rest ih =>
    have hshift := log_shift hspi byte u
    have hss : (u.shift spi byte).1.ss = u.ss := rfl
    rw [writeBytes]
    generalize u.shift spi byte = r at hshift hss
    obtain ⟨v, answer⟩ := r
    dsimp only at hshift hss
    cases answer with
    | none =>
      refine ⟨[byte], ?_, hshift, fun h ↦ absurd h Bool.false_ne_true⟩
      exact List.prefix_append [byte] rest
    | some _ =>
      obtain ⟨sent, hsent, hlog, hall⟩ := ih v
      refine ⟨byte :: sent, List.cons_prefix_cons.mpr ⟨rfl, hsent⟩, ?_, fun h ↦ ?_⟩
      · dsimp only
        rw [hlog, hshift, hss, List.append_assoc]
        rfl
      · rw [hall h]

/-- As many bytes are shifted out for a reply as are asked for, unless one fails. -/
theorem shifts_readReply (n j : Nat) (u : Bus τ) :
    ∃ m ≤ n, log (readReply spi n j u).1.chip = log u.chip ++ List.replicate m ⟨!u.ss, 0xff⟩ ∧
      ((readReply spi n j u).2 = true → m = n) := by
  induction n generalizing j u with
  | zero => exact ⟨0, Nat.le_refl 0, (List.append_nil _).symm, fun _ ↦ rfl⟩
  | succ n ih =>
    have hshift := log_shift hspi 0xff u
    have hss : (u.shift spi 0xff).1.ss = u.ss := rfl
    rw [readReply]
    generalize u.shift spi 0xff = r at hshift hss
    obtain ⟨v, answer⟩ := r
    dsimp only at hshift hss
    cases answer with
    | none => exact ⟨1, by omega, hshift, fun h ↦ absurd h Bool.false_ne_true⟩
    | some k =>
      obtain ⟨m, hm, hlog, hall⟩ := ih (j + 1) (v.store j k)
      have hstore : (v.store j k).chip = v.chip ∧ (v.store j k).ss = v.ss := ⟨rfl, rfl⟩
      refine ⟨m + 1, by omega, ?_, fun h ↦ by rw [hall h]⟩
      dsimp only
      rw [hlog, hstore.1, hstore.2, hshift, hss, List.append_assoc, List.replicate_succ]
      rfl

/-- The polls and the reply of an exchange. -/
theorem shifts_awaitClear (recvLen tries : Nat) (u : Bus τ) :
    ∃ polls ≤ tries, ∃ out, log (awaitClear spi recvLen tries u).1.chip = log u.chip ++ out ∧
      out <+: exchanged [] polls recvLen ∧
      ((awaitClear spi recvLen tries u).2 = .ok () → out = exchanged [] polls recvLen) := by
  induction tries generalizing u with
  | zero =>
    refine ⟨0, Nat.le_refl 0, [], (List.append_nil _).symm, List.nil_prefix, fun h ↦ ?_⟩
    rw [awaitClear] at h
    cases h
  | succ tries ih =>
    have hfirst : log ((u.setss true).shift spi 0x44).1.chip = log u.chip ++ [⟨true, 0x44⟩] :=
      log_shift hspi 0x44 (u.setss true)
    have hss : ((u.setss true).shift spi 0x44).1.ss = false := rfl
    rw [awaitClear]
    generalize (u.setss true).shift spi 0x44 = r at hfirst hss
    obtain ⟨v, answer⟩ := r
    dsimp only at hfirst hss
    cases answer with
    | none =>
      refine ⟨1, by omega, _, hfirst, ?_, fun h ↦ by cases h⟩
      exact (List.prefix_append [Shift.mk true 0x44] [⟨true, 0xff⟩]).trans
        (begins_poll List.nil_prefix)
    | some _ =>
      have hsecond : log (v.shift spi 0xff).1.chip =
          log u.chip ++ [⟨true, 0x44⟩, ⟨true, 0xff⟩] := by
        rw [log_shift hspi, hfirst, hss, List.append_assoc]
        rfl
      have hss : (v.shift spi 0xff).1.ss = false := hss
      dsimp only
      generalize v.shift spi 0xff = r at hsecond hss
      obtain ⟨v, answer⟩ := r
      dsimp only at hsecond hss
      cases answer with
      | none =>
        exact ⟨1, by omega, _, hsecond, begins_poll List.nil_prefix, fun h ↦ by cases h⟩
      | some k =>
        dsimp only
        by_cases hk : k = 0xff
        · obtain ⟨m, hm, hlog, hall⟩ := shifts_readReply hspi recvLen 0 v
          rw [hss, hsecond, List.append_assoc] at hlog
          rw [if_pos hk]
          generalize readReply spi recvLen 0 v = r at hlog hall
          obtain ⟨v, done⟩ := r
          refine ⟨1, by omega, _, ?_, begins_poll (begins_reply hm), ?_⟩
          · cases done <;> exact hlog
          · intro h
            cases done with
            | false => cases h
            | true =>
              rw [hall rfl]
              simp [exchanged]
        · rw [if_neg hk]
          obtain ⟨polls, hpolls, out, hlog, hpre, hall⟩ := ih (v.setss false)
          have hset : (v.setss false).chip = v.chip := rfl
          rw [hset, hsecond, List.append_assoc] at hlog
          refine ⟨polls + 1, by omega, _, hlog, begins_poll hpre, fun h ↦ ?_⟩
          rw [hall h]
          rfl

/-- Whatever `spi_byte` answers: the bytes of an exchange are those of its command, some polls and
the reply, up to the first that fails, and all of them if the exchange succeeds. -/
theorem shifts_pktSend (sendLen recvLen : Nat) (u : Bus τ) :
    ∃ polls ≤ MAX_COUNT, ∃ out,
      log (pktSend spi sendLen recvLen u).1.chip = log u.chip ++ out ∧
      out <+: exchanged (u.pktData.toList.take sendLen) polls recvLen ∧
      ((pktSend spi sendLen recvLen u).2 = .ok () →
        out = exchanged (u.pktData.toList.take sendLen) polls recvLen) ∧
      ((writeBytes spi (u.pktData.toList.take sendLen) (u.setss true)).2 = true →
        (u.pktData.toList.take sendLen).map (Shift.mk true) <+: out) := by
  obtain ⟨sent, hsent, hlog, hall⟩ :=
    shifts_writeBytes hspi (u.pktData.toList.take sendLen) (u.setss true)
  have hset : (u.setss true).chip = u.chip ∧ (!(u.setss true).ss) = true := ⟨rfl, rfl⟩
  rw [hset.1, hset.2] at hlog
  have hexchanged (polls : Nat) : exchanged (u.pktData.toList.take sendLen) polls recvLen =
      (u.pktData.toList.take sendLen).map (Shift.mk true) ++ exchanged [] polls recvLen := by
    simp [exchanged]
  rw [pktSend]
  generalize writeBytes spi (u.pktData.toList.take sendLen) (u.setss true) = r at hlog hall
  obtain ⟨v, written⟩ := r
  dsimp only at hlog hall
  cases written with
  | false =>
    refine ⟨0, Nat.zero_le _, _, hlog, ?_, fun h ↦ ?_, fun h ↦ absurd h Bool.false_ne_true⟩
    · rw [hexchanged]
      exact (hsent.map _).trans (List.prefix_append _ _)
    · cases h
  | true =>
    obtain rfl := hall rfl
    obtain ⟨polls, hpolls, out, hawait, hpre, hall⟩ :=
      shifts_awaitClear hspi recvLen MAX_COUNT (v.setss false)
    have hset : (v.setss false).chip = v.chip := rfl
    rw [hset, hlog, List.append_assoc] at hawait
    refine ⟨polls, hpolls, _, hawait, ?_, fun h ↦ ?_, fun _ ↦ List.prefix_append _ _⟩
    · rw [hexchanged]
      exact (List.prefix_append_right_inj _).mpr hpre
    · rw [hexchanged, hall h]

end Record

section Answers

variable (ans : Nat → Option UInt8)

/-- A `spi_byte` whose call number `n` answers `ans n`, with a record of the bytes it is given. -/
def answering : SpiByte (List Shift) := fun ss log byte ↦
  (log ++ [⟨!ss, byte⟩], ans log.length)

/-- The same without the record. -/
def numbered : SpiByte Nat := fun _ n _ ↦ (n + 1, ans n)

private theorem records_answering : (answering ans).Records id := fun _ _ _ ↦ rfl

private theorem follows_numbered : (numbered ans).Follows List.length (answering ans) := by
  intro ss log byte
  show (log.length + 1, ans log.length) = ((log ++ [_]).length, ans log.length)
  rw [List.length_append, List.length_singleton]

/-- The `k` calls from number `n` on all succeed. -/
def Good (n k : Nat) : Prop := ∀ i < k, (ans (n + i)).isSome

/-- The poll that starts at call `n` is answered, but not with clear-to-send. -/
def Busy (n : Nat) : Prop := (ans n).isSome ∧ ∃ v, ans (n + 1) = some v ∧ v ≠ 0xff

/-- The poll that starts at call `n` reads clear-to-send. -/
def Clear (n : Nat) : Prop := (ans n).isSome ∧ ans (n + 1) = some 0xff

/-- Of the polls from call `n` on, number `k` is the first to read clear-to-send and those
before it are answered. -/
def ClearAt (n k : Nat) : Prop := (∀ i < k, Busy ans (n + 2 * i)) ∧ Clear ans (n + 2 * k)

variable {ans}

private theorem Good.zero (n : Nat) : Good ans n 0 := by
  intro i hi
  omega

private theorem good_succ (n k : Nat) :
    Good ans n (k + 1) ↔ (ans n).isSome ∧ Good ans (n + 1) k := by
  constructor
  · intro h
    constructor
    · simpa using h 0 (by omega)
    · intro i hi
      have := h (i + 1) (by omega)
      rwa [show n + 1 + i = n + (i + 1) by omega]
  · intro ⟨h₀, h⟩ i hi
    cases i with
    | zero => exact h₀
    | succ i =>
      rw [show n + (i + 1) = n + 1 + i by omega]
      exact h i (by omega)

private theorem Busy.not_clear {n : Nat} (h : Busy ans n) : ¬Clear ans n := by
  intro hc
  obtain ⟨v, hv, hne⟩ := h.2
  apply hne
  simpa [hv] using hc.2

private theorem ClearAt.eq {n k l : Nat} (hk : ClearAt ans n k) (hl : ClearAt ans n l) : k = l := by
  rcases Nat.lt_trichotomy k l with h | h | h
  · exact absurd hk.2 (hl.1 k h).not_clear
  · exact h
  · exact absurd hl.2 (hk.1 l h).not_clear

/-- One byte on the counting bus. -/
@[simp]
theorem shift_numbered (byte : UInt8) (u : Bus Nat) :
    u.shift (numbered ans) byte = ({ u with chip := u.chip + 1 }, ans u.chip) := rfl

/-- The command is written when every one of its bytes is, and nothing else changes. -/
theorem writeBytes_numbered (ans : Nat → Option UInt8) (bytes : List UInt8) (u : Bus Nat) :
    ∃ n ≤ u.chip + bytes.length,
      (writeBytes (numbered ans) bytes u).1 = { u with chip := n } ∧
      ((writeBytes (numbered ans) bytes u).2 = true ↔ Good ans u.chip bytes.length) ∧
      (Good ans u.chip bytes.length → n = u.chip + bytes.length) := by
  induction bytes generalizing u with
  | nil => exact ⟨u.chip, Nat.le_refl _, rfl, by simp [writeBytes, Good.zero], fun _ ↦ rfl⟩
  | cons byte rest ih =>
    simp only [writeBytes, shift_numbered, List.length_cons, good_succ]
    cases h : ans u.chip with
    | none => exact ⟨u.chip + 1, by omega, rfl, by simp, by simp⟩
    | some v =>
      obtain ⟨n, hn, hbus, hgood, hend⟩ := ih { u with chip := u.chip + 1 }
      simp only at hn hend hgood
      exact ⟨n, by omega, hbus, by simpa using hgood, fun hg ↦ by have := hend hg.2; omega⟩

private theorem readReply_of_none {n j : Nat} {u : Bus Nat} (h : ans u.chip = none) :
    readReply (numbered ans) (n + 1) j u = ({ u with chip := u.chip + 1 }, false) := by
  simp only [readReply, shift_numbered, h]

private theorem readReply_of_some {n j : Nat} {u : Bus Nat} {k : UInt8} (h : ans u.chip = some k) :
    readReply (numbered ans) (n + 1) j u =
      readReply (numbered ans) n (j + 1) (Bus.store j k { u with chip := u.chip + 1 }) := by
  simp only [readReply, shift_numbered, h]

/-- The reply is read when every one of its bytes is; then they stand in the buffer in order. -/
theorem readReply_numbered (ans : Nat → Option UInt8) (n j : Nat) (u : Bus Nat) :
    (readReply (numbered ans) n j u).1.chip ≤ u.chip + n ∧
    ((readReply (numbered ans) n j u).2 = true ↔ Good ans u.chip n) ∧
    (Good ans u.chip n → (readReply (numbered ans) n j u).1.chip = u.chip + n ∧
      (∀ i < n, ∀ h : j + i < MAX_SPI_BLOCK,
        ans (u.chip + i) = some (readReply (numbered ans) n j u).1.pktData[j + i]) ∧
      ∀ x (h : x < MAX_SPI_BLOCK), x < j ∨ j + n ≤ x →
        (readReply (numbered ans) n j u).1.pktData[x] = u.pktData[x]) := by
  induction n generalizing j u with
  | zero =>
    simp only [readReply]
    exact ⟨Nat.le_refl _, by simp [Good.zero], fun _ ↦ ⟨rfl, by omega, fun x h _ ↦ trivial⟩⟩
  | succ n ih =>
    cases hans : ans u.chip with
    | none =>
      simp only [readReply_of_none hans, good_succ, hans]
      exact ⟨by omega, by simp, by simp⟩
    | some k =>
      simp only [readReply_of_some hans, good_succ, hans]
      obtain ⟨hchip, hgood, hdata⟩ :=
        ih (j + 1) (Bus.store j k { u with chip := u.chip + 1 })
      simp only [Bus.store] at hchip hgood hdata ⊢
      refine ⟨by omega, by simpa using hgood, ?_⟩
      intro hg
      obtain ⟨hend, hread, hkept⟩ := hdata hg.2
      refine ⟨by omega, ?_, ?_⟩
      · intro i hi hj
        cases i with
        | zero =>
          have := hkept j (by omega) (by omega)
          simp only [Nat.add_zero, this, hans]
          simp
        | succ i =>
          have := hread i (by omega) (by omega)
          rw [show u.chip + (i + 1) = u.chip + 1 + i by omega, this]
          simp only [show j + 1 + i = j + (i + 1) by omega]
      · intro x hx hout
        rw [hkept x hx (by omega), Vector.getElem_setIfInBounds]
        exact if_neg (by omega)

/-- A reply whose first byte does not come leaves the buffer alone. -/
theorem pktData_readReply (ans : Nat → Option UInt8) (n j : Nat) (u : Bus Nat)
    (h : ¬(0 < n ∧ (ans u.chip).isSome)) :
    (readReply (numbered ans) n j u).1.pktData = u.pktData := by
  cases n with
  | zero => rfl
  | succ n =>
    cases hans : ans u.chip with
    | none => rw [readReply_of_none hans]
    | some k => simp [hans] at h

/-- Polls that are answered without clear-to-send use up two calls and one try each. -/
theorem awaitClear_of_busy {k : Nat} (recvLen tries : Nat) {u : Bus Nat} (hu : u.Released)
    (h : ∀ i < k, Busy ans (u.chip + 2 * i)) :
    awaitClear (numbered ans) recvLen (k + tries) u =
      awaitClear (numbered ans) recvLen tries { u with chip := u.chip + 2 * k } := by
  induction k generalizing u with
  | zero => simp
  | succ k ih =>
    have hfirst : Busy ans u.chip := by simpa using h 0 (by omega)
    obtain ⟨hcmd, v, hv, hne⟩ := hfirst
    obtain ⟨w, hw⟩ := Option.isSome_iff_exists.mp hcmd
    have hnext : ∀ i < k, Busy ans (u.chip + 2 + 2 * i) := by
      intro i hi
      rw [show u.chip + 2 + 2 * i = u.chip + 2 * (i + 1) by omega]
      exact h (i + 1) (by omega)
    rw [show k + 1 + tries = k + tries + 1 by omega]
    simp only [awaitClear, shift_numbered, Bus.chip_setss, hw, hv, hne, if_false]
    rw [ih (Bus.released_setss_false _) (by simpa using hnext)]
    simp only [Bus.setss, Bool.not_false]
    rw [show u.chip + 1 + 1 + 2 * k = u.chip + 2 * (k + 1) by omega, show u.ss = true from hu]

/-- What the polling loop makes of the calls from the one it starts with. -/
structure Polled (ans : Nat → Option UInt8) (recvLen tries : Nat) (u : Bus Nat)
    (r : Bus Nat × Except SpiError Unit) : Prop where
  chip : r.1.chip ≤ u.chip + 2 * tries + recvLen
  ok : r.2 = .ok () ↔
    ∃ k < tries, ClearAt ans u.chip k ∧ Good ans (u.chip + 2 * k + 2) recvLen
  data : ∀ k < tries, ClearAt ans u.chip k → Good ans (u.chip + 2 * k + 2) recvLen →
    r.1.chip = u.chip + 2 * (k + 1) + recvLen ∧
    (∀ i < recvLen, ∀ h : i < MAX_SPI_BLOCK,
      ans (u.chip + 2 * k + 2 + i) = some r.1.pktData[i]) ∧
    ∀ x (h : x < MAX_SPI_BLOCK), recvLen ≤ x → r.1.pktData[x] = u.pktData[x]
  kept : (¬∃ k < tries, ClearAt ans u.chip k ∧
    0 < recvLen ∧ (ans (u.chip + 2 * k + 2)).isSome) → r.1.pktData = u.pktData

/-- A loop that never reads clear-to-send fails and keeps the buffer. -/
theorem Polled.of_not_clear {recvLen tries : Nat} {u : Bus Nat}
    {r : Bus Nat × Except SpiError Unit} (hchip : r.1.chip ≤ u.chip + 2 * tries + recvLen)
    (hfail : r.2 ≠ .ok ()) (hdata : r.1.pktData = u.pktData)
    (h : ∀ k < tries, ¬ClearAt ans u.chip k) : Polled ans recvLen tries u r where
  chip := hchip
  ok := by
    constructor
    · intro hok
      exact absurd hok hfail
    · intro ⟨k, hk, hc, _⟩
      exact absurd hc (h k hk)
  data := fun k hk hc ↦ absurd hc (h k hk)
  kept := fun _ ↦ hdata

/-- Past the first poll that is not busy there is no clear-to-send unless it reads one. -/
theorem not_clearAt_of_not_clear {n k l : Nat} (hbusy : ∀ i < k, Busy ans (n + 2 * i))
    (hk : ¬Busy ans (n + 2 * k)) (hc : ¬Clear ans (n + 2 * k)) : ¬ClearAt ans n l := by
  intro hl
  rcases Nat.lt_trichotomy l k with h | h | h
  · exact (hbusy l h).not_clear hl.2
  · exact hc (h ▸ hl.2)
  · exact hk (hl.1 k h)

/-- The loop at the first poll that reads clear-to-send. -/
theorem polled_of_clear {recvLen tries : Nat} {u : Bus Nat} {k : Nat} (hu : u.Released)
    (hk : k < tries) (hc : ClearAt ans u.chip k) :
    Polled ans recvLen tries u (awaitClear (numbered ans) recvLen tries u) := by
  obtain ⟨t, rfl⟩ : ∃ t, tries = k + (t + 1) := ⟨tries - k - 1, by omega⟩
  obtain ⟨w, hw⟩ := Option.isSome_iff_exists.mp hc.2.1
  have hread := readReply_numbered ans recvLen 0
    { u with chip := u.chip + 2 * k + 1 + 1, ss := !true }
  have hkept :=
    pktData_readReply ans recvLen 0 { u with chip := u.chip + 2 * k + 1 + 1, ss := !true }
  rw [awaitClear_of_busy recvLen (t + 1) hu hc.1]
  simp only [awaitClear, shift_numbered, Bus.chip_setss, hw, hc.2.2, if_true]
  simp only [Bus.setss] at hread hkept ⊢
  generalize readReply (numbered ans) recvLen 0
    { u with chip := u.chip + 2 * k + 1 + 1, ss := !true } = r at hread hkept ⊢
  obtain ⟨v, done⟩ := r
  obtain ⟨hchip, hgood, hdata⟩ := hread
  have huniq : ∀ l, ClearAt ans u.chip l → l = k := fun l hl ↦ hl.eq hc
  cases done
  all_goals
    simp only at hchip hgood hdata hkept ⊢
    constructor
  · simp only
    omega
  · constructor
    · intro h
      cases h
    · intro ⟨l, _, hl, hg⟩
      rw [huniq l hl] at hg
      exact absurd (hgood.mpr hg) (by decide)
  · intro l _ hl hg
    rw [huniq l hl] at hg
    exact absurd (hgood.mpr hg) (by decide)
  · intro h
    exact hkept fun hf ↦ h ⟨k, hk, hc, hf⟩
  · simp only
    omega
  · simp only [true_iff]
    exact ⟨k, hk, hc, hgood.mp trivial⟩
  · intro l _ hl hg
    obtain ⟨hend, hbytes, hrest⟩ := hdata (hgood.mp trivial)
    rw [huniq l hl]
    refine ⟨by simp only; omega, ?_, ?_⟩
    · intro i hi h
      have := hbytes i hi (by omega)
      simpa using this
    · intro x h hx
      exact hrest x h (by omega)
  · intro h
    exact hkept fun hf ↦ h ⟨k, hk, hc, hf⟩

/-- A property that fails below a bound fails somewhere for the first time. -/
theorem exists_first_not {P : Nat → Prop} {n : Nat} (h : ¬∀ i < n, P i) :
    ∃ k < n, ¬P k ∧ ∀ i < k, P i := by
  classical
  have hex : ∃ i, i < n ∧ ¬P i := by simpa using h
  obtain ⟨hlt, hnot⟩ := Nat.find_spec hex
  refine ⟨Nat.find hex, hlt, hnot, ?_⟩
  intro i hi
  have hmin := Nat.find_min hex hi
  simp only [not_and, not_not] at hmin
  exact hmin (Nat.lt_trans hi hlt)

/-- The polling loop, over every sequence of answers. -/
theorem polled_awaitClear (ans : Nat → Option UInt8) (recvLen tries : Nat) (u : Bus Nat)
    (hu : u.Released) : Polled ans recvLen tries u (awaitClear (numbered ans) recvLen tries u) := by
  by_cases hall : ∀ i < tries, Busy ans (u.chip + 2 * i)
  · have hno : ∀ k < tries, ¬ClearAt ans u.chip k := fun k hk hc ↦ (hall k hk).not_clear hc.2
    have hrun := awaitClear_of_busy recvLen 0 hu hall
    rw [Nat.add_zero] at hrun
    rw [hrun]
    exact .of_not_clear (by simp [awaitClear]) (by simp [awaitClear]) rfl hno
  · obtain ⟨k, hk, hnot, hbefore⟩ :
        ∃ k < tries, ¬Busy ans (u.chip + 2 * k) ∧ ∀ i < k, Busy ans (u.chip + 2 * i) :=
      exists_first_not hall
    by_cases hc : Clear ans (u.chip + 2 * k)
    · exact polled_of_clear hu hk ⟨hbefore, hc⟩
    have hno : ∀ l < tries, ¬ClearAt ans u.chip l := fun l _ ↦
      not_clearAt_of_not_clear hbefore hnot hc
    obtain ⟨t, rfl⟩ : ∃ t, tries = k + (t + 1) := ⟨tries - k - 1, by omega⟩
    rw [awaitClear_of_busy recvLen (t + 1) hu hbefore]
    cases hcmd : ans (u.chip + 2 * k) with
    | none =>
      simp only [awaitClear, shift_numbered, Bus.chip_setss, hcmd]
      exact .of_not_clear (by simp only [Bus.setss]; omega) nofun rfl hno
    | some w =>
      cases hack : ans (u.chip + 2 * k + 1) with
      | none =>
        simp only [awaitClear, shift_numbered, Bus.chip_setss, hcmd, hack]
        exact .of_not_clear (by simp only [Bus.setss]; omega) nofun rfl hno
      | some v =>
        -- an answered poll is busy or clear
        exfalso
        by_cases hv : v = 0xff
        · exact hc ⟨by simp [hcmd], by rw [hack, hv]⟩
        · exact hnot ⟨by simp [hcmd], v, hack, hv⟩

/-- A command that is written is polled for. -/
theorem pktSend_of_good {sendLen : Nat} (recvLen : Nat) {u : Bus Nat}
    (hs : sendLen ≤ MAX_SPI_BLOCK) (h : Good ans u.chip sendLen) :
    pktSend (numbered ans) sendLen recvLen u =
      awaitClear (numbered ans) recvLen MAX_COUNT
        (Bus.setss false { u with chip := u.chip + sendLen }) := by
  have hlen : (u.pktData.toList.take sendLen).length = sendLen := by simp [hs]
  obtain ⟨m, _, hbus, hgood, hend⟩ :=
    writeBytes_numbered ans (u.pktData.toList.take sendLen) (u.setss true)
  rw [hlen] at hgood hend
  have hdone := hgood.mpr h
  rw [hend h] at hbus
  rw [pktSend]
  generalize writeBytes (numbered ans) (u.pktData.toList.take sendLen) (u.setss true) = w
    at hbus hdone
  obtain ⟨v, done⟩ := w
  simp only at hbus hdone
  rw [hbus, hdone]
  rfl

/-- A command that is not written ends the exchange. -/
theorem pktSend_of_not_good {sendLen : Nat} (recvLen : Nat) {u : Bus Nat}
    (hs : sendLen ≤ MAX_SPI_BLOCK) (h : ¬Good ans u.chip sendLen) :
    ∃ m ≤ u.chip + sendLen, pktSend (numbered ans) sendLen recvLen u =
      (Bus.setss false { u with chip := m }, .error .writeFail) := by
  have hlen : (u.pktData.toList.take sendLen).length = sendLen := by simp [hs]
  obtain ⟨m, hm, hbus, hgood, _⟩ :=
    writeBytes_numbered ans (u.pktData.toList.take sendLen) (u.setss true)
  rw [hlen] at hm hgood
  have hfail := Bool.eq_false_iff.mpr fun hdone ↦ h (hgood.mp hdone)
  refine ⟨m, hm, ?_⟩
  rw [pktSend]
  generalize writeBytes (numbered ans) (u.pktData.toList.take sendLen) (u.setss true) = w
    at hbus hfail
  obtain ⟨v, done⟩ := w
  simp only at hbus hfail
  rw [hbus, hfail]
  rfl

end Answers

/-- Over every sequence of answers of `spi_byte`, an exchange ends after a bounded number of
calls with the radio deselected. It succeeds exactly when the command is written, one of the
first `MAX_COUNT` polls reads clear-to-send and the reply bytes come after it; the bytes shifted
out are then the command, the polls and those for the reply, with the radio selected, and the
reply stands in `pkt_data` in order. If it fails, the bytes shifted out are the first of these,
with the whole command if all of it is answered. Until a first reply byte is read the buffer is as
it was. -/
theorem pktSend_exchange (ans : Nat → Option UInt8) (sendLen recvLen : Nat)
    (u : Bus (List Shift)) (hs : sendLen ≤ MAX_SPI_BLOCK) (hr : recvLen ≤ MAX_SPI_BLOCK) :
    let r := pktSend (answering ans) sendLen recvLen u
    let n := u.chip.length + sendLen
    let cmd := u.pktData.toList.take sendLen
    r.1.Released ∧ r.1.chip.length ≤ n + 2 * MAX_COUNT + recvLen ∧
    (r.2 = .ok () ↔ Good ans u.chip.length sendLen ∧
      ∃ k < MAX_COUNT, ClearAt ans n k ∧ Good ans (n + 2 * k + 2) recvLen) ∧
    (r.2 = .ok () → ∃ k < MAX_COUNT, ClearAt ans n k ∧
      r.1.chip = u.chip ++ exchanged cmd (k + 1) recvLen ∧
      (∀ (j : Nat) (hj : j < recvLen), ans (n + 2 * k + 2 + j) = some r.1.pktData[j]) ∧
      ∀ (j : Nat) (hj : j < MAX_SPI_BLOCK), recvLen ≤ j → r.1.pktData[j] = u.pktData[j]) ∧
    (∃ polls ≤ MAX_COUNT, ∃ out, r.1.chip = u.chip ++ out ∧ out <+: exchanged cmd polls recvLen ∧
      (Good ans u.chip.length sendLen → cmd.map (Shift.mk true) <+: out)) ∧
    ((¬∃ k < MAX_COUNT, Good ans u.chip.length sendLen ∧ ClearAt ans n k ∧ 0 < recvLen ∧
      (ans (n + 2 * k + 2)).isSome) → r.1.pktData = u.pktData) := by
  intro r n cmd
  have hreleased : r.1.Released := released_pktSend (answering ans) sendLen recvLen u
  obtain ⟨polls, hpolls, out, hlog, hpre, hall, hwhole⟩ :=
    shifts_pktSend (records_answering ans) sendLen recvLen u
  have hcmd : cmd.length = sendLen := by simp [cmd, hs]
  have hwritten : Good ans u.chip.length sendLen →
      (writeBytes (answering ans) cmd (u.setss true)).2 = true := by
    intro hgood
    obtain ⟨m, -, -, hiff, -⟩ := writeBytes_numbered ans cmd ((u.setss true).map List.length)
    rw [hcmd, writeBytes_map (follows_numbered ans)] at hiff
    exact hiff.mpr hgood
  have hcut : ∃ polls ≤ MAX_COUNT, ∃ out, r.1.chip = u.chip ++ out ∧
      out <+: exchanged cmd polls recvLen ∧
      (Good ans u.chip.length sendLen → cmd.map (Shift.mk true) <+: out) :=
    ⟨polls, hpolls, out, hlog, hpre, fun hgood ↦ hwhole (hwritten hgood)⟩
  have hmap := pktSend_map (follows_numbered ans) sendLen recvLen u
  by_cases hgood : Good ans u.chip.length sendLen
  · have hgood' : Good ans (u.map List.length).chip sendLen := hgood
    have hp := polled_awaitClear ans recvLen MAX_COUNT _ (Bus.released_setss_false
      { u.map List.length with chip := (u.map List.length).chip + sendLen })
    rw [← pktSend_of_good recvLen hs hgood', hmap] at hp
    obtain ⟨hchip, hok, hdata, hkept⟩ := hp
    refine ⟨hreleased, hchip, ?_, ?_, hcut, ?_⟩
    · rw [and_iff_right hgood]
      exact hok
    · intro h
      obtain ⟨k, hk, hc, hg⟩ := hok.mp h
      obtain ⟨hend, hbytes, hrest⟩ := hdata k hk hc hg
      have hout : out = exchanged cmd polls recvLen := hall h
      -- the record is as long as the calls are many, so the polls are those up to the clear one
      have hlength : r.1.chip.length = n + 2 * (k + 1) + recvLen := hend
      have hlog : r.1.chip = u.chip ++ out := hlog
      have hexchanged : (exchanged cmd polls recvLen).length = sendLen + 2 * polls + recvLen := by
        rw [length_exchanged, hcmd]
      have hsame : polls = k + 1 := by
        rw [hlog, List.length_append, hout, hexchanged] at hlength
        omega
      refine ⟨k, hk, hc, ?_, fun j hj ↦ hbytes j hj (by omega), hrest⟩
      rw [hlog, hout, hsame]
    · intro h
      apply hkept
      intro ⟨k, hk, hc, hpos, hsome⟩
      exact h ⟨k, hk, hgood, hc, hpos, hsome⟩
  · have hgood' : ¬ Good ans (u.map List.length).chip sendLen := hgood
    obtain ⟨m, hm, hfailed⟩ := pktSend_of_not_good recvLen hs hgood'
    rw [hmap] at hfailed
    have hbus : r.1.map List.length = Bus.setss false { u.map List.length with chip := m } :=
      congrArg Prod.fst hfailed
    have herror : r.2 = .error .writeFail := congrArg Prod.snd hfailed
    have hno : r.2 ≠ .ok () := by
      rw [herror]
      exact fun h ↦ by cases h
    refine ⟨hreleased, ?_, ⟨fun h ↦ absurd h hno, fun h ↦ absurd h.1 hgood⟩,
      fun h ↦ absurd h hno, hcut, fun _ ↦ ?_⟩
    · have hchip : r.1.chip.length = m := congrArg Bus.chip hbus
      have hm : m ≤ n := hm
      omega
    · have hdata : (r.1.map List.length).pktData = (u.map List.length).pktData := by
        rw [hbus]
        rfl
      exact hdata

/-- A radio that is busy at the first poll and then reports its device state. -/
theorem pktSend_requestDeviceState :
    let ans : Nat → Option UInt8 := fun n ↦ some ([0, 0, 0, 0, 0xff, 3, 5].getD n 0)
    let r := pktSend (answering ans) 1 2
      ⟨[], true, Vector.replicate MAX_SPI_BLOCK SI4463_REQUEST_DEVICE_STATE⟩
    r.2 = .ok () ∧ ∃ k < MAX_COUNT,
      r.1.chip = exchanged [SI4463_REQUEST_DEVICE_STATE] (k + 1) 2 := by
  intro ans
  obtain ⟨-, -, hok, hsent, -⟩ := pktSend_exchange ans 1 2
    ⟨[], true, Vector.replicate MAX_SPI_BLOCK SI4463_REQUEST_DEVICE_STATE⟩ (by decide) (by decide)
  have hgood : Good ans 0 1 ∧ ∃ k < MAX_COUNT, ClearAt ans 1 k ∧ Good ans (1 + 2 * k + 2) 2 := by
    refine ⟨fun i _ ↦ rfl, 1, by decide, ⟨?_, rfl, rfl⟩, fun i _ ↦ rfl⟩
    intro i hi
    obtain rfl : i = 0 := by omega
    exact ⟨rfl, 0, rfl, by decide⟩
  have hdone := hok.mpr hgood
  obtain ⟨k, hk, -, hlog, -⟩ := hsent hdone
  exact ⟨hdone, k, hk, hlog⟩

end Libradio
