import Libradio.Client.Commands
import Libradio.Client.Loop

/-!
# The indexes that command handling uses

`libradio_command` and `libradio_send_response` once more, with every index into the status
buffer and into a packet's data written down where it is used. Forgetting the indexes gives
`libradioCommand` back. The status buffer has sixteen bytes (`src/lib/command.c:48-50`), a
packet's data ten.
-/

namespace Libradio

variable {σ α β : Type}

/-- An index that is used, into the status buffer or into a packet's data. -/
inductive Use
  | status (i : Nat)
  | data (i : Nat)
  deriving DecidableEq, Repr

/-- The index is inside its array. -/
def Use.InBounds : Use → Prop
  | status i => i < 16
  | data i => i < MAX_PAYLOAD_SIZE

instance : (u : Use) → Decidable u.InBounds
  | .status _ => inferInstanceAs (Decidable (_ < _))
  | .data _ => inferInstanceAs (Decidable (_ < _))

/-- A result and the indexes used for it, in order. -/
structure Traced (α : Type) where
  uses : List Use
  result : α

instance : Monad Traced where
  pure a := ⟨[], a⟩
  bind x f := ⟨x.uses ++ (f x.result).uses, (f x.result).result⟩

/-- A value on its own uses no index. -/
@[simp] theorem uses_pure (a : α) : (pure a : Traced α).uses = [] := rfl

/-- Its result is the value. -/
@[simp] theorem result_pure (a : α) : (pure a : Traced α).result = a := rfl

/-- One part after the other uses the indices of both. -/
@[simp] theorem uses_bind (x : Traced α) (f : α → Traced β) :
    (x >>= f).uses = x.uses ++ (f x.result).uses := rfl

/-- The result of the second part on that of the first. -/
@[simp] theorem result_bind (x : Traced α) (f : α → Traced β) :
    (x >>= f).result = (f x.result).result := rfl

/-- `pp->data[i]`. -/
def useData (p : Packet) (beyond : UInt8) (i : Nat) : Traced UInt8 :=
  ⟨[.data i], dataAt p beyond i⟩

/-- `statusbuffer[i] = value`. -/
def useStatus (i : Nat) (value : UInt8) (buffer : Nat → UInt8) : Traced (Nat → UInt8) :=
  ⟨[.status i], fun j ↦ if j = i then value else buffer j⟩

/-- The loop of READ_EEPROM, `src/lib/command.c:156-157`. -/
def tracedFillStatus (eeprom : UInt16 → UInt8) (addr : UInt16) (old : Nat → UInt8) :
    Nat → Traced (Nat → UInt8)
  | 0 => pure old
  | n + 1 => do
    let buffer ← tracedFillStatus eeprom addr old n
    useStatus n (eeprom (addr + UInt16.ofNat n)) buffer

/-- The loop of WRITE_EEPROM, `src/lib/command.c:170-171`. -/
def tracedWriteEeprom (p : Packet) (beyond : UInt8) (addr : UInt16) (eeprom : UInt16 → UInt8) :
    Nat → Traced (UInt16 → UInt8)
  | 0 => pure eeprom
  | n + 1 => do
    let eeprom ← tracedWriteEeprom p beyond addr eeprom n
    let byte ← useData p beyond (n + 3)
    pure fun a ↦ if a = addr + UInt16.ofNat n then byte else eeprom a

/-- `libradio_send_response`, whose loop uses each index below the length, cut to ten, in both
arrays, `src/lib/handle.c:79-82`. -/
def tracedSendResponse (b : Board σ) (fuel : Nat) (cmd chan addr len : UInt8)
    (buffer : Nat → UInt8) (d : Dev σ) : Traced (Dev σ) :=
  ⟨(List.range (if len > 10 then 10 else len.toNat)).flatMap fun i ↦ [.status i, .data i],
    libradioSendResponse b fuel cmd chan addr len buffer d⟩

/-- `libradio_command`, `src/lib/command.c:57-181`. -/
def tracedCommand (b : Board σ) (app : App σ) (fuel : Nat) (p : Packet) (d : Dev σ) :
    Traced (Dev σ) :=
  if p.cmd ≠ RADIO_CMD_ACTIVATE ∧ d.radio.state < LIBRADIO_STATE_ACTIVE then pure d
  else if p.cmd = RADIO_CMD_NOOP ∨ p.cmd = RADIO_STATUS_RESPONSE ∨
      p.cmd = RADIO_EEPROM_RESPONSE then pure d
  else if p.cmd = RADIO_CMD_FIRMWARE then pure d
  else if p.cmd = RADIO_CMD_STATUS then
    if p.len ≠ 3 then pure d
    else do
      let rchan ← useData p d.beyondData 0
      let addr ← useData p d.beyondData 1
      let i ← useData p d.beyondData 2
      let r := app.fetchStatus i d
      if 0 < r.2 then
        tracedSendResponse b fuel RADIO_STATUS_RESPONSE rchan addr (UInt8.ofNat r.2)
          r.1.statusbuffer r.1
      else pure r.1
  else if p.cmd = RADIO_CMD_ACTIVATE then
    if p.len ≠ 6 then pure d
    else do
      let c1 ← useData p d.beyondData 2
      let c2 ← useData p d.beyondData 3
      let n1 ← useData p d.beyondData 4
      let n2 ← useData p d.beyondData 5
      if c1 ≠ d.radio.cat1 ∨ c2 ≠ d.radio.cat2 ∨ n1 ≠ d.radio.num1 ∨ n2 ≠ d.radio.num2 then
        pure d
      else do
        let channel ← useData p d.beyondData 0
        let node ← useData p d.beyondData 1
        pure { d with
          radio := libradioSetState LIBRADIO_STATE_ACTIVE
            { d.radio with myChannel := channel, myNodeId := node } }
  else if p.cmd = RADIO_CMD_DEACTIVATE then
    if p.len ≠ 0 then pure d
    else pure { d with
      radio := libradioSetState LIBRADIO_STATE_WARM { d.radio with myChannel := 0, myNodeId := 0 } }
  else if p.cmd = RADIO_CMD_SET_TIME then
    if p.len ≠ 1 then pure d
    else do
      let tens ← useData p d.beyondData 0
      pure { d with radio := { d.radio with tensOfMinutes := tens } }
  else if p.cmd = RADIO_CMD_SET_DATE then
    if p.len ≠ 2 then pure d
    else do
      let hi ← useData p d.beyondData 0
      let lo ← useData p d.beyondData 1
      pure { d with radio := { d.radio with date := word hi lo } }
  else if p.cmd = RADIO_CMD_READ_EEPROM then
    if p.len ≠ 4 then pure d
    else do
      let rchan ← useData p d.beyondData 0
      let len ← useData p d.beyondData 1
      let hi ← useData p d.beyondData 2
      let lo ← useData p d.beyondData 3
      let buffer ← tracedFillStatus d.eeprom (word hi lo) d.statusbuffer len.toNat
      tracedSendResponse b fuel RADIO_EEPROM_RESPONSE rchan (word hi lo + len.toUInt16).toUInt8
        len buffer { d with statusbuffer := buffer }
  else if p.cmd = RADIO_CMD_WRITE_EEPROM then
    if p.len < 3 ∨ p.len > 22 then pure d
    else do
      let hi ← useData p d.beyondData 0
      let lo ← useData p d.beyondData 1
      let eeprom ← tracedWriteEeprom p d.beyondData (word hi lo) d.eeprom (p.len.toNat - 2)
      pure { d with eeprom := eeprom }
  else pure (app.operate p d)

/-! ### Forgetting the indexes -/

private theorem dataAt_eq_dataByte (p : Packet) (beyond : UInt8) {i : Nat} (h : i < 10) :
    dataAt p beyond i = dataByte p.data i := by
  rw [dataAt, dif_pos h, dataByte, Vector.getElem?_eq_getElem h, Option.getD_some]

private theorem result_tracedFillStatus (eeprom : UInt16 → UInt8) (addr : UInt16)
    (old : Nat → UInt8)
    (n : Nat) : (tracedFillStatus eeprom addr old n).result = fillStatus eeprom addr n old := by
  induction n with
  | zero =>
    funext i
    simp [tracedFillStatus, fillStatus]
  | succ n ih =>
    funext i
    rw [tracedFillStatus, result_bind, ih]
    change (if i = n then eeprom (addr + UInt16.ofNat n) else fillStatus eeprom addr n old i) = _
    unfold fillStatus
    by_cases hi : i = n
    · rw [if_pos hi, if_pos (by omega), hi]
    · rw [if_neg hi]
      by_cases hlt : i < n
      · rw [if_pos hlt, if_pos (by omega)]
      · rw [if_neg hlt, if_neg (by omega)]

private theorem result_tracedWriteEeprom (p : Packet) (beyond : UInt8) (addr : UInt16)
    (eeprom : UInt16 → UInt8) (n : Nat) :
    (tracedWriteEeprom p beyond addr eeprom n).result = writeEeprom p beyond addr n eeprom := by
  induction n with
  | zero => rfl
  | succ n ih =>
    rw [tracedWriteEeprom, result_bind, ih]
    rfl

/-- Without the indexes it is the command handling of the model. -/
theorem result_tracedCommand (b : Board σ) (app : App σ) (fuel : Nat) (p : Packet) (d : Dev σ) :
    (tracedCommand b app fuel p d).result = libradioCommand b app fuel p d := by
  have hdata (i : Nat) (h : i < 10) : (useData p d.beyondData i).result = dataByte p.data i :=
    dataAt_eq_dataByte p d.beyondData h
  unfold tracedCommand libradioCommand
  simp only [apply_ite Traced.result, result_pure, result_bind, hdata 0 (by decide),
    hdata 1 (by decide), hdata 2 (by decide), hdata 3 (by decide), hdata 4 (by decide),
    hdata 5 (by decide), result_tracedFillStatus, result_tracedWriteEeprom]
  rfl

/-! ### The indexes that are used -/

/-- Every index used is inside its array. -/
def Traced.InBounds (t : Traced α) : Prop := ∀ u ∈ t.uses, u.InBounds

/-- A value on its own stays in bounds. -/
@[simp] theorem inBounds_pure (a : α) : (pure a : Traced α).InBounds := by simp [Traced.InBounds]

/-- Two parts stay in bounds if both do. -/
@[simp] theorem inBounds_bind (x : Traced α) (f : α → Traced β) :
    (x >>= f).InBounds ↔ x.InBounds ∧ (f x.result).InBounds := by
  simp only [Traced.InBounds, uses_bind, List.mem_append, or_imp, forall_and]

/-- The data array of a packet has ten bytes. -/
@[simp] theorem inBounds_useData (p : Packet) (beyond : UInt8) (i : Nat) :
    (useData p beyond i).InBounds ↔ i < 10 := by
  simp [Traced.InBounds, useData, Use.InBounds]

/-- The status buffer has sixteen. -/
@[simp] theorem inBounds_useStatus (i : Nat) (value : UInt8) (buffer : Nat → UInt8) :
    (useStatus i value buffer).InBounds ↔ i < 16 := by
  simp [Traced.InBounds, useStatus, Use.InBounds]

/-- READ_EEPROM fills as many bytes as it is asked for. -/
@[simp] theorem inBounds_tracedFillStatus (eeprom : UInt16 → UInt8) (addr : UInt16)
    (old : Nat → UInt8) (n : Nat) : (tracedFillStatus eeprom addr old n).InBounds ↔ n ≤ 16 := by
  induction n with
  | zero => simp [tracedFillStatus]
  | succ n ih =>
    rw [tracedFillStatus, inBounds_bind, ih, inBounds_useStatus]
    omega

/-- WRITE_EEPROM starts at the fourth byte of the data. -/
@[simp] theorem inBounds_tracedWriteEeprom (p : Packet) (beyond : UInt8) (addr : UInt16)
    (eeprom : UInt16 → UInt8) (n : Nat) :
    (tracedWriteEeprom p beyond addr eeprom n).InBounds ↔ n ≤ 7 := by
  induction n with
  | zero => simp [tracedWriteEeprom]
  | succ n ih =>
    rw [tracedWriteEeprom, inBounds_bind, ih, inBounds_bind, inBounds_useData]
    simp only [inBounds_pure, and_true]
    omega

/-- A response copies at most ten bytes. -/
@[simp] theorem inBounds_tracedSendResponse (b : Board σ) (fuel : Nat)
    (cmd chan addr len : UInt8) (buffer : Nat → UInt8) (d : Dev σ) :
    (tracedSendResponse b fuel cmd chan addr len buffer d).InBounds := by
  have hn : (if len > 10 then 10 else len.toNat) ≤ 10 := by
    split
    · omega
    · next h =>
      have := UInt8.le_iff_toNat_le.mp (UInt8.not_lt.mp h)
      exact this
  intro u hu
  simp only [tracedSendResponse, List.mem_flatMap, List.mem_range, List.mem_cons,
    List.not_mem_nil, or_false] at hu
  obtain ⟨i, hi, rfl | rfl⟩ := hu
  · change i < 16
    omega
  · change i < 10
    omega

/-- A READ_EEPROM that is executed and asks for more than the status buffer holds. -/
def OverrunsStatus (r : Radio) (p : Packet) : Prop :=
  LIBRADIO_STATE_ACTIVE ≤ r.state ∧ p.cmd = RADIO_CMD_READ_EEPROM ∧ p.len = 4 ∧
    16 < dataByte p.data 1

/-- A WRITE_EEPROM that is executed and fills the packet. -/
def OverrunsData (r : Radio) (p : Packet) : Prop :=
  LIBRADIO_STATE_ACTIVE ≤ r.state ∧ p.cmd = RADIO_CMD_WRITE_EEPROM ∧ p.len = 10

/-- A packet that was received has at most ten bytes of data. -/
theorem len_clampLen (p : Packet) : p.clampLen.len ≤ 10 := by
  unfold Packet.clampLen
  split
  · exact UInt8.le_refl 10
  · next h => exact UInt8.not_lt.mp h

/-- A command other than READ_EEPROM and WRITE_EEPROM uses the first six bytes of data at most. -/
theorem inBounds_tracedCommand_of_ne (b : Board σ) (app : App σ) (fuel : Nat) {p : Packet}
    (d : Dev σ) (hread : p.cmd ≠ RADIO_CMD_READ_EEPROM) (hwrite : p.cmd ≠ RADIO_CMD_WRITE_EEPROM) :
    (tracedCommand b app fuel p d).InBounds := by
  unfold tracedCommand
  by_cases hguard : p.cmd ≠ RADIO_CMD_ACTIVATE ∧ d.radio.state < LIBRADIO_STATE_ACTIVE
  · rw [if_pos hguard]
    exact inBounds_pure d
  rw [if_neg hguard]
  by_cases hquiet : p.cmd = RADIO_CMD_NOOP ∨ p.cmd = RADIO_STATUS_RESPONSE ∨
      p.cmd = RADIO_EEPROM_RESPONSE
  · rw [if_pos hquiet]
    exact inBounds_pure d
  rw [if_neg hquiet]
  by_cases hfirm : p.cmd = RADIO_CMD_FIRMWARE
  · rw [if_pos hfirm]
    exact inBounds_pure d
  rw [if_neg hfirm]
  by_cases hstatus : p.cmd = RADIO_CMD_STATUS
  · rw [if_pos hstatus]
    split
    · exact inBounds_pure d
    · simp only [inBounds_bind, inBounds_useData]
      refine ⟨by decide, by decide, by decide, ?_⟩
      split
      · exact inBounds_tracedSendResponse _ _ _ _ _ _ _ _
      · exact inBounds_pure _
  rw [if_neg hstatus]
  by_cases hact : p.cmd = RADIO_CMD_ACTIVATE
  · rw [if_pos hact]
    split
    · exact inBounds_pure d
    · simp only [inBounds_bind, inBounds_useData]
      refine ⟨by decide, by decide, by decide, by decide, ?_⟩
      split
      · exact inBounds_pure d
      · simp
  rw [if_neg hact]
  by_cases hdeact : p.cmd = RADIO_CMD_DEACTIVATE
  · rw [if_pos hdeact]
    split <;> exact inBounds_pure _
  rw [if_neg hdeact]
  by_cases htime : p.cmd = RADIO_CMD_SET_TIME
  · rw [if_pos htime]
    split <;> simp
  rw [if_neg htime]
  by_cases hdate : p.cmd = RADIO_CMD_SET_DATE
  · rw [if_pos hdate]
    split <;> simp
  rw [if_neg hdate, if_neg hread, if_neg hwrite]
  exact inBounds_pure _

/-- READ_EEPROM reads as many bytes as the packet asks for. -/
theorem inBounds_tracedCommand_readEeprom (b : Board σ) (app : App σ) (fuel : Nat) {p : Packet}
    (d : Dev σ) (hread : p.cmd = RADIO_CMD_READ_EEPROM) :
    (tracedCommand b app fuel p d).InBounds ↔ ¬ OverrunsStatus d.radio p := by
  unfold tracedCommand OverrunsStatus
  by_cases hactive : LIBRADIO_STATE_ACTIVE ≤ d.radio.state
  · rw [hread, if_neg fun h ↦ UInt8.not_lt.mpr hactive h.2, if_neg (by decide), if_neg (by decide),
      if_neg (by decide), if_neg (by decide), if_neg (by decide), if_neg (by decide),
      if_neg (by decide), if_pos rfl]
    by_cases hlen : p.len = 4
    · rw [if_neg (not_not_intro hlen)]
      have h1 : (useData p d.beyondData 1).result = dataByte p.data 1 :=
        dataAt_eq_dataByte p d.beyondData (i := 1) (by decide)
      simp only [inBounds_bind, inBounds_useData, inBounds_tracedFillStatus,
        inBounds_tracedSendResponse, h1, hactive, hlen, true_and, and_true,
        UInt8.not_lt, UInt8.le_iff_toNat_le, UInt8.reduceToNat]
      omega
    · rw [if_pos hlen]
      exact iff_of_true (inBounds_pure d) fun h ↦ hlen h.2.2.1
  · rw [hread, if_pos ⟨by decide, UInt8.not_le.mp hactive⟩]
    exact iff_of_true (inBounds_pure d) fun h ↦ hactive h.1

/-- WRITE_EEPROM starts at the fourth byte and takes two less than there are. -/
theorem inBounds_tracedCommand_writeEeprom (b : Board σ) (app : App σ) (fuel : Nat) {p : Packet}
    (d : Dev σ) (hwrite : p.cmd = RADIO_CMD_WRITE_EEPROM) (hmax : p.len ≤ 10) :
    (tracedCommand b app fuel p d).InBounds ↔ ¬ OverrunsData d.radio p := by
  unfold tracedCommand OverrunsData
  by_cases hactive : LIBRADIO_STATE_ACTIVE ≤ d.radio.state
  · rw [hwrite, if_neg fun h ↦ UInt8.not_lt.mpr hactive h.2, if_neg (by decide),
      if_neg (by decide), if_neg (by decide), if_neg (by decide), if_neg (by decide),
      if_neg (by decide), if_neg (by decide), if_neg (by decide), if_pos rfl]
    by_cases hlen : p.len < 3 ∨ p.len > 22
    · rw [if_pos hlen]
      refine iff_of_true (inBounds_pure d) fun h ↦ ?_
      rw [h.2.2] at hlen
      exact absurd hlen (by decide)
    · rw [if_neg hlen]
      simp only [inBounds_bind, inBounds_useData, inBounds_tracedWriteEeprom, inBounds_pure,
        hactive, true_and, and_true, UInt8.lt_iff_toNat_lt, UInt8.le_iff_toNat_le,
        ← UInt8.toNat_inj, UInt8.reduceToNat] at hlen hmax ⊢
      omega
  · rw [hwrite, if_pos ⟨by decide, UInt8.not_le.mp hactive⟩]
    exact iff_of_true (inBounds_pure d) fun h ↦ hactive h.1

/-- The command handling of a received packet, whatever sixteen bytes it was made from, is the
one of the model, and every index it uses is inside its array exactly when it is neither a
READ_EEPROM for more than sixteen bytes nor a WRITE_EEPROM of the full ten bytes. -/
theorem command_in_bounds_iff (b : Board σ) (app : App σ) (fuel : Nat) (v : Vector UInt8 16)
    (d : Dev σ) :
    let p := (Packet.ofBytes v).clampLen
    (tracedCommand b app fuel p d).result = libradioCommand b app fuel p d ∧
      ((tracedCommand b app fuel p d).InBounds ↔
        ¬ OverrunsStatus d.radio p ∧ ¬ OverrunsData d.radio p) := by
  intro p
  refine ⟨result_tracedCommand b app fuel p d, ?_⟩
  have hmax : p.len ≤ 10 := len_clampLen _
  by_cases hread : p.cmd = RADIO_CMD_READ_EEPROM
  · have hw : ¬ OverrunsData d.radio p := fun h ↦ absurd (hread.symm.trans h.2.1) (by decide)
    rw [and_iff_left hw]
    exact inBounds_tracedCommand_readEeprom b app fuel d hread
  · have hr : ¬ OverrunsStatus d.radio p := fun h ↦ hread h.2.1
    rw [and_iff_right hr]
    by_cases hwrite : p.cmd = RADIO_CMD_WRITE_EEPROM
    · exact inBounds_tracedCommand_writeEeprom b app fuel d hwrite hmax
    · exact iff_of_true (inBounds_tracedCommand_of_ne b app fuel d hread hwrite)
        fun h ↦ hwrite h.2.1

-- The sixteen bytes of a READ_EEPROM for seventeen bytes, and of a WRITE_EEPROM with the longest
-- length.
private def longRead : Vector UInt8 16 := #v[0, 0, 0, 7, 4, 18, 0, 17, 0, 0, 0, 0, 0, 0, 0, 0]

private def longWrite : Vector UInt8 16 := #v[0, 0, 0, 8, 10, 2, 0, 0, 0, 0, 0, 0, 0, 0, 0, 0]

private def activeClient : Dev Nat :=
  { Client.powerOn 0 with radio := { Radio.zero with state := LIBRADIO_STATE_ACTIVE } }

/-- Both packets pass the checksum; the first uses index 16 of the status buffer, the second
index 10 of its data. -/
theorem command_out_of_bounds :
    (Packet.ofBytes longRead).clampLen.checksum = 0 ∧
      (Packet.ofBytes longWrite).clampLen.checksum = 0 ∧
      Use.status 16 ∈ (tracedCommand (.scripted fun _ _ ↦ 16) Client.idleApp 0
        (Packet.ofBytes longRead).clampLen activeClient).uses ∧
      Use.data 10 ∈ (tracedCommand (.scripted fun _ _ ↦ 16) Client.idleApp 0
        (Packet.ofBytes longWrite).clampLen activeClient).uses := by
  decide +kernel

end Libradio
