import Libradio.Client.Commands
import Libradio.Client.Response

/-!
# The EEPROM over the air

A WRITE_EEPROM carries an address of two bytes and the bytes to be stored
(`src/COMMANDS.md:217-232`); a READ_EEPROM is the only way to see what became of them.
`src/lib/command.c:170-171` takes the bytes from one place further on.
-/

namespace Libradio

variable {σ : Type}

/-! ### What the two commands are for -/

/-- A WRITE_EEPROM of `bytes` from `addr` on. -/
structure Packet.Writes (p : Packet) (addr : UInt16) (bytes : List UInt8) : Prop where
  cmd : p.cmd = RADIO_CMD_WRITE_EEPROM
  len : p.len.toNat = bytes.length + 2
  payload : p.data.toList.take p.len.toNat = (addr >>> 8).toUInt8 :: addr.toUInt8 :: bytes

/-- A READ_EEPROM of `n` bytes from `addr` on. -/
structure Packet.Reads (p : Packet) (addr : UInt16) (n : Nat) : Prop where
  cmd : p.cmd = RADIO_CMD_READ_EEPROM
  len : p.len = 4
  count : (dataByte p.data 1).toNat = n
  addrHigh : dataByte p.data 2 = (addr >>> 8).toUInt8
  addrLow : dataByte p.data 3 = addr.toUInt8

/-- The cells from `addr` on hold `bytes`, and every other cell what it held before. -/
def Stored (addr : UInt16) (bytes : List UInt8) (eeprom eeprom' : UInt16 → UInt8) : Prop :=
  ∀ a, eeprom' a = bytes[(a - addr).toNat]?.getD (eeprom a)

/-- The packet `p` has stored `bytes` from `addr` on, and whoever reads them gets them. -/
structure WrittenThrough (b : Board σ) (app : App σ) (fuel : Nat) (p : Packet) (addr : UInt16)
    (bytes : List UInt8) (d : Dev σ) : Prop where
  stored : Stored addr bytes d.eeprom (libradioCommand b app fuel p d).eeprom
  readBack : ∀ q : Packet, q.Reads addr bytes.length → ∀ i, i < bytes.length →
    some ((libradioCommand b app fuel q (libradioCommand b app fuel p d)).statusbuffer i) =
      bytes[i]?

/-- All of the bytes are the one that follows them in the packet, or in memory behind it. -/
def AllAsNext (p : Packet) (beyond : UInt8) (bytes : List UInt8) : Prop :=
  ∀ x ∈ bytes, x = dataAt p beyond (bytes.length + 2)

instance (p : Packet) (beyond : UInt8) (bytes : List UInt8) :
    Decidable (AllAsNext p beyond bytes) :=
  List.decidableBAll _ bytes

/-- The two bytes of an address are the address. -/
theorem word_bytes (addr : UInt16) : word (addr >>> 8).toUInt8 addr.toUInt8 = addr := by
  have hhigh : (addr >>> 8).toNat = addr.toNat / 256 := by
    rw [UInt16.toNat_shiftRight, Nat.shiftRight_eq_div_pow]
    rfl
  have haddr := addr.toNat_lt
  apply UInt16.toNat_inj.mp
  rw [toNat_word, UInt16.toNat_toUInt8, UInt16.toNat_toUInt8, hhigh]
  omega

namespace Packet.Writes

variable {p : Packet} {addr : UInt16} {bytes : List UInt8} (h : p.Writes addr bytes)

include h

/-- What is written fits the packet. -/
theorem length_le : bytes.length ≤ 8 := by
  have hlen := congrArg List.length h.payload
  rw [List.length_take, Vector.length_toList, h.len] at hlen
  simp only [List.length_cons] at hlen
  omega

/-- The bytes are in the packet, behind the address. -/
theorem data {i : Nat} (hi : i < bytes.length + 2) :
    p.data[i]? = ((addr >>> 8).toUInt8 :: addr.toUInt8 :: bytes)[i]? := by
  rw [← h.payload, List.getElem?_take_of_lt (by rw [h.len]; exact hi), Vector.getElem?_toList]

private theorem address : word (dataByte p.data 0) (dataByte p.data 1) = addr := by
  rw [dataByte, dataByte, h.data (by omega), h.data (by omega)]
  exact word_bytes addr

/-- A byte of the list, as the source would have to take it. -/
theorem byte {beyond : UInt8} {i : Nat} (hi : i < bytes.length) :
    dataAt p beyond (i + 2) = bytes[i] := by
  rw [dataAt_eq_getD, h.data (by omega), List.getElem?_cons_succ, List.getElem?_cons_succ,
    List.getElem?_eq_getElem hi, Option.getD_some]

/-- What an active client does with it. -/
theorem libradioCommand_eq (b : Board σ) (app : App σ) (fuel : Nat) {d : Dev σ}
    (hbytes : bytes ≠ []) (hactive : LIBRADIO_STATE_ACTIVE ≤ d.radio.state) :
    libradioCommand b app fuel p d = { d with
      eeprom := writeEeprom p d.beyondData addr bytes.length d.eeprom } := by
  have hpos := List.length_pos_iff.mpr hbytes
  have hle := h.length_le
  have hleast : 3 ≤ p.len := by
    rw [UInt8.le_iff_toNat_le, h.len]
    show 3 ≤ bytes.length + 2
    omega
  have hmost : p.len ≤ 22 := by
    rw [UInt8.le_iff_toNat_le, h.len]
    show bytes.length + 2 ≤ 22
    omega
  rw [libradioCommand_writeEeprom b app fuel h.cmd hleast hmost hactive, h.address, h.len,
    Nat.add_sub_cancel]

/-- The source's loop stores the bytes exactly if each of them is the one behind it. -/
theorem stored_iff_shift (beyond : UInt8) (eeprom : UInt16 → UInt8) :
    Stored addr bytes eeprom (writeEeprom p beyond addr bytes.length eeprom) ↔
      ∀ i, i < bytes.length → dataAt p beyond (i + 2) = dataAt p beyond (i + 3) := by
  have hle := h.length_le
  unfold Stored
  constructor
  · intro hstored i hi
    have hoffset : (addr + UInt16.ofNat i - addr).toNat = i := by
      rw [UInt16.toNat_sub, UInt16.toNat_add, UInt16.toNat_ofNat']
      have haddr := addr.toNat_lt
      omega
    have hcell := hstored (addr + UInt16.ofNat i)
    rw [writeEeprom_apply p beyond addr (by omega) eeprom hi, hoffset,
      List.getElem?_eq_getElem hi, Option.getD_some] at hcell
    rw [h.byte hi, hcell]
  · intro hshift a
    rw [writeEeprom_eq p beyond addr (by omega)]
    by_cases hi : (a - addr).toNat < bytes.length
    · rw [if_pos hi, ← hshift _ hi, h.byte hi, List.getElem?_eq_getElem hi, Option.getD_some]
    · rw [if_neg hi, List.getElem?_eq_none (Nat.le_of_not_lt hi), Option.getD_none]

/-- Every byte is the one behind it exactly if all are the one behind the last. -/
theorem shift_iff {beyond : UInt8} :
    (∀ i, i < bytes.length → dataAt p beyond (i + 2) = dataAt p beyond (i + 3)) ↔
      AllAsNext p beyond bytes := by
  constructor
  · intro hshift
    -- From the last byte towards the first.
    have hall : ∀ k, k ≤ bytes.length →
        dataAt p beyond (bytes.length - k + 2) = dataAt p beyond (bytes.length + 2) := by
      intro k
      induction k with
      | zero => exact fun _ ↦ rfl
      | succ k ih =>
        intro hk
        have hstep := hshift (bytes.length - (k + 1)) (by omega)
        have hnext : bytes.length - (k + 1) + 3 = bytes.length - k + 2 := by omega
        rw [hstep, hnext]
        exact ih (by omega)
    intro x hx
    obtain ⟨i, hi, rfl⟩ := List.getElem_of_mem hx
    have hi' := hall (bytes.length - i) (by omega)
    rw [Nat.sub_sub_self (Nat.le_of_lt hi)] at hi'
    rw [← h.byte hi, hi']
  · intro hall i hi
    have hthis := hall _ (List.getElem_mem hi)
    rw [h.byte hi, hthis]
    by_cases hlast : i + 1 < bytes.length
    · rw [h.byte (i := i + 1) hlast, hall _ (List.getElem_mem hlast)]
    · have hi' : bytes.length = i + 1 := by omega
      rw [hi']

end Packet.Writes

/-! ### Reading it back -/

section Frame

variable (b : Board σ)

private theorem statusbuffer_libradioPowerUp (d : Dev σ) :
    (libradioPowerUp b d).1.statusbuffer = d.statusbuffer := by
  cases poweredUp_libradioPowerUp b.keeps_true d with
  | already active eq => rw [eq]
  | done asleep ok asked => exact asked.statusbuffer
  | failed asleep ok asked => exact asked.statusbuffer

private theorem statusbuffer_transmitFrame (ticks : Nat) (d : Dev σ) (chp : Channel)
    (channo : UInt8) :
    (transmitFrame b ticks d chp channo).dev.statusbuffer = d.statusbuffer := by
  unfold transmitFrame libradioTxpacket
  dsimp only
  split
  · rw [if_neg Bool.false_ne_true]
  · rw [if_pos rfl]
    dsimp only
    split <;> rfl

private theorem statusbuffer_libradioSend (ticks : Nat) (d : Dev σ) (chp : Channel)
    (channo : UInt8) :
    (libradioSend b ticks d chp channo).dev.statusbuffer = d.statusbuffer := by
  have hup := statusbuffer_libradioPowerUp b d
  unfold libradioSend
  dsimp only
  generalize libradioPowerUp b d = up at hup ⊢
  split
  · have hstatus :=
      (asked_libradioRequestDeviceStatus b.keeps_true up.1).statusbuffer.trans hup
    generalize (libradioRequestDeviceStatus b up.1).1 = e at hstatus ⊢
    split
    · exact hstatus
    · have hspace := (asked_libradioGetFifoInfo b.keeps_true 0 e).statusbuffer.trans hstatus
      unfold libradioCheckTx
      dsimp only
      split
      · exact (statusbuffer_transmitFrame b ticks _ chp channo).trans hspace
      · exact hspace
  · exact hup

/-- Sending a response leaves the bytes of the response where they are. -/
theorem statusbuffer_libradioSendResponse (fuel : Nat) (cmd chan addr len : UInt8)
    (buffer : Nat → UInt8) (d : Dev σ) :
    (libradioSendResponse b fuel cmd chan addr len buffer d).statusbuffer = d.statusbuffer := by
  unfold libradioSendResponse
  dsimp only
  generalize (⟨.transmit, 10, _⟩ : Channel) = chp
  have hsend := statusbuffer_libradioSend b 0 { d with txchan := chp } chp chan
  generalize libradioSend b 0 { d with txchan := chp } chp chan = r at hsend ⊢
  generalize (if r.ok = true then _ else _ : Channel) = chp'
  have hwait :=
    (asked_waitTransmitted b.keeps_true fuel { r.dev with txchan := chp' }).statusbuffer
  generalize waitTransmitted b fuel { r.dev with txchan := chp' } = e at hwait ⊢
  have hup := statusbuffer_libradioPowerUp b e
  unfold libradioRecvStart
  dsimp only
  split <;> exact hup.trans (hwait.trans hsend)

/-- Whoever reads the EEPROM finds its cells in the status buffer, where the response is taken
from. -/
theorem statusbuffer_read (app : App σ) (fuel : Nat) {q : Packet} {addr : UInt16} {n : Nat}
    (h : q.Reads addr n) {d : Dev σ} (hactive : LIBRADIO_STATE_ACTIVE ≤ d.radio.state) {i : Nat}
    (hi : i < n) :
    (libradioCommand b app fuel q d).statusbuffer i = d.eeprom (addr + UInt16.ofNat i) := by
  obtain ⟨node, buffer, heq, hbuffer⟩ :=
    libradioCommand_readEeprom b app fuel h.cmd h.len hactive
  rw [heq, statusbuffer_libradioSendResponse, hbuffer]
  dsimp only
  rw [fillStatus, h.count, if_pos hi, h.addrHigh, h.addrLow, word_bytes]

end Frame

/-- A WRITE_EEPROM of one to eight bytes stores what it carries exactly if all of the bytes are
the one that follows them. -/
theorem writtenThrough_iff (b : Board σ) (app : App σ) (fuel : Nat) {p : Packet} {addr : UInt16}
    {bytes : List UInt8} (h : p.Writes addr bytes) (hbytes : bytes ≠ []) (d : Dev σ)
    (hactive : LIBRADIO_STATE_ACTIVE ≤ d.radio.state) :
    WrittenThrough b app fuel p addr bytes d ↔ AllAsNext p d.beyondData bytes := by
  have heq := h.libradioCommand_eq b app fuel hbytes hactive
  have hstored := (h.stored_iff_shift d.beyondData d.eeprom).trans h.shift_iff
  have heeprom : (libradioCommand b app fuel p d).eeprom =
      writeEeprom p d.beyondData addr bytes.length d.eeprom := by rw [heq]
  constructor
  · intro hwritten
    have hcells := hwritten.stored
    rw [heeprom] at hcells
    exact hstored.mp hcells
  · intro hall
    have hcells : Stored addr bytes d.eeprom (libradioCommand b app fuel p d).eeprom := by
      rw [heeprom]
      exact hstored.mpr hall
    refine ⟨hcells, fun q hq i hi ↦ ?_⟩
    have hactive' : LIBRADIO_STATE_ACTIVE ≤ (libradioCommand b app fuel p d).radio.state := by
      rw [heq]
      exact hactive
    have hoffset : (addr + UInt16.ofNat i - addr).toNat = i := by
      have hle := h.length_le
      rw [UInt16.toNat_sub, UInt16.toNat_add, UInt16.toNat_ofNat']
      have haddr := addr.toNat_lt
      omega
    rw [statusbuffer_read b app fuel hq hactive' hi, hcells, hoffset, List.getElem?_eq_getElem hi,
      Option.getD_some]

-- An active client with an empty EEPROM.
private def eepromClient : Dev Nat :=
  { Client.powerOn 0 with radio := { Radio.zero with state := LIBRADIO_STATE_ACTIVE } }

-- A WRITE_EEPROM of a single byte at address 0, as `libradio_txpacket` pads it.
private def singleByte (x : UInt8) : Packet :=
  { Packet.zero with
    cmd := RADIO_CMD_WRITE_EEPROM, len := 3
    data := .ofFn fun i ↦ if i.val < 2 then 0 else if i.val = 2 then x else 0xff }

private theorem writes_singleByte (x : UInt8) : (singleByte x).Writes 0 [x] :=
  ⟨rfl, rfl, rfl⟩

/-- A byte that is the padding is stored. -/
theorem writtenThrough_padding :
    WrittenThrough (Board.scripted fun _ _ ↦ 16) Client.idleApp 1 (singleByte 0xff) 0 [0xff]
      eepromClient :=
  (writtenThrough_iff _ _ 1 (writes_singleByte 0xff) (by decide) eepromClient (by decide)).mpr
    (by decide)

/-- Of any other byte the padding is stored. -/
theorem not_writtenThrough_one :
    ¬ WrittenThrough (Board.scripted fun _ _ ↦ 16) Client.idleApp 1 (singleByte 1) 0 [1]
      eepromClient := by
  intro h
  exact absurd (h.stored 0) (by decide +kernel)

end Libradio
