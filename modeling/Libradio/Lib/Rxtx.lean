import Libradio.Lib.Packet
import Libradio.Lib.Power

/-!
# Receiving and sending one packet

`src/lib/rxtx.c` and the two FIFO functions of `src/lib/packet.c`. A call is made on
behalf of one channel's packet buffer and returns the device, that buffer and the
source's return value. The clock interrupts that fall between the start of a send and
the moment the time stamp is taken are an argument of the send.
-/

namespace Libradio

variable {σ : Type}

/-- The result of a call on one packet buffer. -/
structure Transfer (σ : Type) where
  dev : Dev σ
  packet : Packet
  ok : Bool

/-- `libradio_check_rx`, `src/lib/rxtx.c:193-197`. -/
def libradioCheckRx (b : Board σ) (d : Dev σ) : Dev σ × Bool :=
  let r := libradioGetFifoInfo b 0 d
  (r.1, r.2 ≥ 16)

/-- `libradio_check_tx`, `src/lib/rxtx.c:202-207`: the count read before is used where the
query fails. -/
def libradioCheckTx (b : Board σ) (d : Dev σ) : Dev σ × Bool :=
  let r := libradioGetFifoInfo b 0 d
  (r.1, r.1.radio.txFifo ≥ 16)

/-- `libradio_set_rx`, `src/lib/rxtx.c:117-133`. -/
def libradioSetRx (b : Board σ) (channo : UInt8) (d : Dev σ) : Dev σ :=
  let cmd := [SI4463_START_RX, channo, 0, 0, 16, SI4463_STATE_NOCHANGE,
    SI4463_STATE_READY, SI4463_STATE_READY]
  { d with
    chip := (b.exchange d.chip cmd 0).1
    radio := { d.radio with currChannel := channo } }

/-- The checks of `libradio_rxpacket` on the bytes it has read,
`src/lib/packet.c:138-162`. -/
def checkReceived (d : Dev σ) (p : Packet) : Transfer σ :=
  let p := p.clampLen
  if p.checksum ≠ 0 then ⟨d, p, false⟩
  else if p.cmd < RADIO_STATUS_RESPONSE then
    ⟨{ d with radio := { d.radio with msTicks := p.ticks } }, p, true⟩
  else ⟨d, p, true⟩

/-- `libradio_rxpacket`, `src/lib/packet.c:123-163`. -/
def libradioRxpacket (b : Board σ) (d : Dev σ) (p : Packet) : Transfer σ :=
  let block := b.readRxFifo d.chip (min d.radio.rxFifo.toNat SI4463_PACKET_LEN)
  checkReceived { d with chip := block.1 } (p.overwrite block.2)

/-- The successful and the failed end of a reception, `src/lib/rxtx.c:82-107`. -/
def countReceived (b : Board σ) (ok : Bool) (d : Dev σ) : Dev σ :=
  let d :=
    if ok then
      { d with radio := { d.radio with npacketRx := d.radio.npacketRx + 1, sawRx := true } }
    else (libradioGetFifoInfo b 2 d).1
  if d.radio.catchIrq ≠ 0 then { d with radio := libradioIrqEnable 1 d.radio } else d

/-- The end of `libradio_recv`, `src/lib/rxtx.c:108-111`: back to RX on the channel. -/
def listenAgain (b : Board σ) (channo : UInt8) (d : Dev σ) : Dev σ :=
  let st := libradioRequestDeviceStatus b d
  if st.2 ≠ some SI4463_STATE_RX ∨ st.1.radio.currChannel ≠ channo then
    libradioSetRx b channo st.1
  else st.1

/-- `libradio_recv`, `src/lib/rxtx.c:70-112`. -/
def libradioRecv (b : Board σ) (d : Dev σ) (p : Packet) (channo : UInt8) : Transfer σ :=
  let avail := libradioCheckRx b d
  if avail.2 then
    let r := libradioRxpacket b avail.1 p
    ⟨listenAgain b channo (countReceived b r.ok r.dev), r.packet, r.ok⟩
  else ⟨listenAgain b channo avail.1, p, false⟩

/-- `libradio_recv_start`, `src/lib/rxtx.c:53-61`. -/
def libradioRecvStart (b : Board σ) (d : Dev σ) : Dev σ × Bool :=
  let up := libradioPowerUp b d
  if up.2 then
    let d := { up.1 with radio := { up.1.radio with catchIrq := 1 } }
    (libradioSetRx b d.radio.myChannel d, true)
  else (up.1, false)

/-- `libradio_txpacket`, `src/lib/packet.c:171-206`, after `ticks` clock interrupts. -/
def libradioTxpacket (b : Board σ) (ticks : Nat) (d : Dev σ) (p : Packet) : Transfer σ :=
  if p.len > 10 then ⟨d, p, false⟩
  else
    let d := { d with radio := clockticks ticks d.radio }
    let p := p.stamp d.radio.msTicks
    ⟨{ d with chip := b.writeTxFifo d.chip p.frame }, p, true⟩

/-- The START_TX command of `libradio_send`, `src/lib/rxtx.c:174-182`: the radio is told to
go to RX afterwards when the channel's state is above TRANSMIT. -/
def startTx (state : ChState) (channo : UInt8) : List UInt8 :=
  let i := if ChState.transmit.toNat < state.toNat then SI4463_STATE_RX else SI4463_STATE_READY
  [SI4463_START_TX, channo, i <<< 4, 0, 16]

/-- The last part of `libradio_send`, `src/lib/rxtx.c:172-187`. -/
def transmitFrame (b : Board σ) (ticks : Nat) (d : Dev σ) (chp : Channel) (channo : UInt8) :
    Transfer σ :=
  let r := libradioTxpacket b ticks d chp.packet
  if r.ok then
    match b.exchange r.dev.chip (startTx chp.state channo) 0 with
    | (w, .ok _) =>
      ⟨{ r.dev with
          chip := w
          radio := { r.dev.radio with npacketTx := r.dev.radio.npacketTx + 1 } },
        r.packet, true⟩
    | (w, .error _) => ⟨{ r.dev with chip := w }, r.packet, false⟩
  else r

/-- `libradio_send`, `src/lib/rxtx.c:141-188`. -/
def libradioSend (b : Board σ) (ticks : Nat) (d : Dev σ) (chp : Channel) (channo : UInt8) :
    Transfer σ :=
  let up := libradioPowerUp b d
  if up.2 then
    let d := (libradioRequestDeviceStatus b up.1).1
    if d.radio.currState ≠ SI4463_STATE_READY ∧ d.radio.currState ≠ SI4463_STATE_RX then
      ⟨d, chp.packet, false⟩
    else
      let space := libradioCheckTx b d
      if space.2 then transmitFrame b ticks space.1 chp channo
      else ⟨space.1, chp.packet, false⟩
  else ⟨up.1, chp.packet, false⟩

end Libradio
