import Libradio.Lib.Rxtx

/-!
# Start-up and the built-in commands

`src/lib/init.c`, `src/lib/command.c` and the response part of `src/lib/handle.c`. The
application's callbacks are an argument, and the busy-wait at the end of a response polls
the radio at most a given number of times.
-/

namespace Libradio

variable {σ : Type}

/-- `libradio_init`, `src/lib/init.c:65-81`. -/
def libradioInit (b : Board σ) (c1 c2 n1 n2 : UInt8) (d : Dev σ) : Dev σ :=
  let r := libradioSetClock 1 16 (libradioSetState LIBRADIO_STATE_STARTUP
    { Radio.zero with
      hbclock := d.radio.hbclock, timerCount := d.radio.timerCount
      threadOk := d.radio.threadOk, elapsedSecond := d.radio.elapsedSecond
      irqFired := d.radio.irqFired, prescaler := d.radio.prescaler
      int0Enabled := d.radio.int0Enabled })
  let r := { r with
    period := r.fastPeriod
    tensOfMinutes := 0xff
    mainTicks := 5
    tickCount := 5
    currState := SI4463_STATE_SLEEP
    cat1 := c1
    cat2 := c2
    num1 := n1
    num2 := n2 }
  (libradioGetFifoInfo b 3 { d with radio := r }).1

/-- The callbacks of an application: `operate`, and `fetch_status`, which fills the status
buffer and returns the number of bytes. -/
structure App (σ : Type) where
  operate : Packet → Dev σ → Dev σ
  fetchStatus : UInt8 → Dev σ → Dev σ × Nat

/-- The busy-wait of `libradio_send_response`, `src/lib/handle.c:92-93`, for at most `fuel`
questions. -/
def waitTransmitted (b : Board σ) : Nat → Dev σ → Dev σ
  | 0, d => d
  | fuel + 1, d =>
    let st := libradioRequestDeviceStatus b d
    if st.2 = some SI4463_STATE_TX then waitTransmitted b fuel st.1 else st.1

/-- `libradio_send_response`, `src/lib/handle.c:68-95`. -/
def libradioSendResponse (b : Board σ) (fuel : Nat) (cmd chan addr len : UInt8)
    (buffer : Nat → UInt8) (d : Dev σ) : Dev σ :=
  let n := if len > 10 then 10 else len.toNat
  let old := d.txchan.packet
  let packet := { old with
    node := addr
    len := len
    cmd := cmd
    data := Vector.ofFn fun i ↦ if i.val < n then buffer i.val else old.data[i] }
  let chp : Channel := ⟨.transmit, 10, packet⟩
  let r := libradioSend b 0 { d with txchan := chp } chp chan
  let chp := { chp with packet := r.packet }
  let chp := if r.ok then { chp with state := .empty, priority := 0 } else chp
  (libradioRecvStart b (waitTransmitted b fuel { r.dev with txchan := chp })).1

/-- Byte `i` of a packet's data as the source reads it: behind the last byte lies memory
that is not the packet's. -/
def dataAt (p : Packet) (beyond : UInt8) (i : Nat) : UInt8 :=
  if h : i < 10 then p.data[i] else beyond

/-- The two bytes of a packet that name an EEPROM address or a date. -/
def word (hi lo : UInt8) : UInt16 := (hi.toUInt16 <<< 8) ||| lo.toUInt16

/-- Two bytes, high byte first. -/
theorem toNat_word (hi lo : UInt8) : (word hi lo).toNat = 256 * hi.toNat + lo.toNat := by
  have hhi := hi.toNat_lt
  have hlo := lo.toNat_lt
  have hshift : (hi.toUInt16 <<< 8).toNat = hi.toNat <<< 8 := by
    rw [UInt16.toNat_shiftLeft, UInt8.toNat_toUInt16]
    exact Nat.mod_eq_of_lt (by rw [Nat.shiftLeft_eq]; change hi.toNat * 2 ^ 8 < 2 ^ 16; omega)
  rw [word, UInt16.toNat_or, hshift, UInt8.toNat_toUInt16,
    ← Nat.shiftLeft_add_eq_or_of_lt hlo, Nat.shiftLeft_eq]
  omega

/-- The two bytes that a number is split into are put together again. -/
theorem toNat_word_split {n : Nat} (h : n < 65536) :
    (word (UInt8.ofNat (n / 256 % 256)) (UInt8.ofNat (n % 256))).toNat = n := by
  rw [toNat_word, UInt8.toNat_ofNat', UInt8.toNat_ofNat']
  omega

/-- The loop of READ_EEPROM, `src/lib/command.c:156-157`: `len` bytes from `addr` on. -/
def fillStatus (eeprom : UInt16 → UInt8) (addr : UInt16) (len : Nat) (old : Nat → UInt8) :
    Nat → UInt8 :=
  fun i ↦ if i < len then eeprom (addr + UInt16.ofNat i) else old i

/-- The loop of WRITE_EEPROM, `src/lib/command.c:170-171`: byte `i` of the data to be written
is taken from index `i + 3`. -/
def writeEeprom (p : Packet) (beyond : UInt8) (addr : UInt16) :
    Nat → (UInt16 → UInt8) → UInt16 → UInt8
  | 0, eeprom => eeprom
  | n + 1, eeprom =>
    let e := writeEeprom p beyond addr n eeprom
    fun a ↦ if a = addr + UInt16.ofNat n then dataAt p beyond (n + 3) else e a

/-- `libradio_command`, `src/lib/command.c:57-181`. -/
def libradioCommand (b : Board σ) (app : App σ) (fuel : Nat) (p : Packet) (d : Dev σ) : Dev σ :=
  if p.cmd ≠ RADIO_CMD_ACTIVATE ∧ d.radio.state < LIBRADIO_STATE_ACTIVE then d
  else if p.cmd = RADIO_CMD_NOOP ∨ p.cmd = RADIO_STATUS_RESPONSE ∨
      p.cmd = RADIO_EEPROM_RESPONSE then d
  else if p.cmd = RADIO_CMD_FIRMWARE then d
  else if p.cmd = RADIO_CMD_STATUS then
    if p.len ≠ 3 then d
    else
      let r := app.fetchStatus (dataByte p.data 2) d
      if 0 < r.2 then
        libradioSendResponse b fuel RADIO_STATUS_RESPONSE (dataByte p.data 0) (dataByte p.data 1)
          (UInt8.ofNat r.2) r.1.statusbuffer r.1
      else r.1
  else if p.cmd = RADIO_CMD_ACTIVATE then
    if p.len ≠ 6 then d
    else if dataByte p.data 2 ≠ d.radio.cat1 ∨ dataByte p.data 3 ≠ d.radio.cat2 ∨
        dataByte p.data 4 ≠ d.radio.num1 ∨ dataByte p.data 5 ≠ d.radio.num2 then d
    else
      { d with
        radio := libradioSetState LIBRADIO_STATE_ACTIVE
          { d.radio with myChannel := dataByte p.data 0, myNodeId := dataByte p.data 1 } }
  else if p.cmd = RADIO_CMD_DEACTIVATE then
    if p.len ≠ 0 then d
    else
      { d with
        radio := libradioSetState LIBRADIO_STATE_WARM
          { d.radio with myChannel := 0, myNodeId := 0 } }
  else if p.cmd = RADIO_CMD_SET_TIME then
    if p.len ≠ 1 then d
    else { d with radio := { d.radio with tensOfMinutes := dataByte p.data 0 } }
  else if p.cmd = RADIO_CMD_SET_DATE then
    if p.len ≠ 2 then d
    else { d with radio := { d.radio with date := word (dataByte p.data 0) (dataByte p.data 1) } }
  else if p.cmd = RADIO_CMD_READ_EEPROM then
    if p.len ≠ 4 then d
    else
      let len := dataByte p.data 1
      let addr := word (dataByte p.data 2) (dataByte p.data 3)
      let buffer := fillStatus d.eeprom addr len.toNat d.statusbuffer
      libradioSendResponse b fuel RADIO_EEPROM_RESPONSE (dataByte p.data 0)
        (addr + len.toUInt16).toUInt8 len buffer { d with statusbuffer := buffer }
  else if p.cmd = RADIO_CMD_WRITE_EEPROM then
    if p.len < 3 ∨ p.len > 22 then d
    else
      { d with
        eeprom := writeEeprom p d.beyondData (word (dataByte p.data 0) (dataByte p.data 1))
          (p.len.toNat - 2)
          d.eeprom }
  else app.operate p d

end Libradio
