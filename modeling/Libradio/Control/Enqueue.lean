import Libradio.Control.Controller

/-!
# The controller's own commands and the hand-over of a packet

`src/control/command.c`, `src/control/enqueue.c` and `reply` of `src/control/input.c`. A
packet that is complete is either a command for the controller itself, which is executed
at once, or waits in its channel for transmission.
-/

namespace Libradio
namespace Ctl

variable {σ : Type}

/-- `reply`, `src/control/input.c:204-212`. -/
def reply (code : UInt8) (s : Ctl σ) : Ctl σ :=
  { s.print (.reply code s.dev.radio.state) with state := .waitnl }

/-- The status bytes of `local_status`, `src/control/command.c:178-201`, with the battery
voltage as it was converted. -/
def statusBytes (r : Radio) (bv : UInt16) (stype : UInt8) : List UInt8 :=
  if stype = RADIO_STATUS_DYNAMIC then
    [r.state, r.tensOfMinutes, (bv >>> 8).toUInt8, bv.toUInt8, (r.npacketRx >>> 8).toUInt8,
      r.npacketRx.toUInt8, (r.npacketTx >>> 8).toUInt8, r.npacketTx.toUInt8]
  else if stype = RADIO_STATUS_STATIC then [1, 1, 1, 1, 3, 1]
  else []

/-- `local_status`, `src/control/command.c:172-207`. -/
def localStatus (b : Board σ) (stype : UInt8) (s : Ctl σ) : Ctl σ :=
  let r := s.dev.radio
  let conv :=
    if stype = RADIO_STATUS_DYNAMIC then b.analogRead s.dev.chip 3 else (s.dev.chip, 0)
  { s with dev := { s.dev with chip := conv.1 } }.print
    (.report r.myChannel r.myNodeId r.msTicks RADIO_STATUS_RESPONSE
      (stype :: statusBytes r conv.2 stype))

/-- The state part of `set_channel`: a value of three or more changes the priority only. -/
def configure (config : UInt8) (chp : Channel) : Channel :=
  { chp with state := (ChState.ofConfig config).getD chp.state, priority := 0 }

/-- `set_channel`, `src/control/enqueue.c:110-121`. -/
def setChannel (channo config : UInt8) (s : Ctl σ) : Ctl σ :=
  if h : channo.toNat < 6 then
    let c : Fin 6 := ⟨channo.toNat, h⟩
    (s.modify c (configure config)).note (.setChannel c config)
  else s

/-- The ACTIVATE branch of `mycommand`, `src/control/command.c:82-100`. -/
def activate (b : Board σ) (p : Packet) (s : Ctl σ) : Ctl σ × UInt8 :=
  let r := { s.dev.radio with myChannel := dataByte p.data 0, myNodeId := dataByte p.data 1 }
  let up := libradioPowerUp b { s.dev with radio := r }
  if up.2 then
    let r := libradioPowerMode true
      (libradioSetDelay 1 (libradioSetState LIBRADIO_STATE_ACTIVE up.1.radio))
    ({ s with dev := { up.1 with radio := r } }, 0)
  else ({ s with dev := up.1 }, RADIO_CTLERR_POWER_FAIL)

/-- The READ_EEPROM branch of `mycommand`, `src/control/command.c:125-144`. -/
def readEeprom (p : Packet) (s : Ctl σ) : Ctl σ :=
  let addr := word (dataByte p.data 3) (dataByte p.data 4)
  s.print (.eeprom (dataByte p.data 0) (dataByte p.data 1)
    ((List.range (dataByte p.data 2).toNat).map fun i ↦ s.dev.eeprom (addr + UInt16.ofNat i)))

/-- The controller's callbacks do nothing, `src/control/main.c:126-143`. -/
def app : App σ := ⟨fun _ d ↦ d, fun _ d ↦ (d, 0)⟩

/-- `mycommand`, `src/control/command.c:65-167`. None of the commands passed on to the library
sends a response, so its busy-wait is never entered. -/
def mycommand (b : Board σ) (p : Packet) (s : Ctl σ) : Ctl σ × UInt8 :=
  if p.cmd = RADIO_CMD_NOOP ∨ p.cmd = RADIO_CMD_FIRMWARE ∨ p.cmd = RADIO_CMD_DEACTIVATE ∨
      p.cmd = RADIO_CMD_SET_DATE ∨ p.cmd = RADIO_CMD_WRITE_EEPROM then
    ({ s with dev := libradioCommand b app 0 p s.dev }, 0)
  else if p.cmd = RADIO_CMD_ACTIVATE then
    if p.len ≠ 3 then (s, 0) else activate b p s
  else if p.cmd = RADIO_CMD_SET_TIME then
    if p.len ≠ 3 then (s, 0)
    else
      let r := { s.dev.radio with
        msTicks := word (dataByte p.data 0) (dataByte p.data 1)
        tensOfMinutes := dataByte p.data 2 }
      ({ s with dev := { s.dev with radio := r } }, 0)
  else if p.cmd = RADIO_CMD_STATUS then
    if p.len ≠ 3 then (s, 0) else (localStatus b (dataByte p.data 2) s, 0)
  else if p.cmd = RADIO_CMD_READ_EEPROM then
    if p.len ≠ 5 then (s, 0) else (readEeprom p s, 0)
  else if p.cmd = RADIO_CMD_SET_CHANNEL then
    if p.len ≠ 2 then (s, 0)
    else if dataByte p.data 0 > 6 then (s, 0)
    else (setChannel (dataByte p.data 0) (dataByte p.data 1) s, 0)
  else (s, RADIO_CTLERR_BAD_CMD)

/-- The packet is for the controller itself, `src/control/enqueue.c:58-59`. -/
def IsLocal (r : Radio) (p : Packet.Content) : Prop :=
  p.node = r.myNodeId ∨ (p.cmd = RADIO_CMD_ACTIVATE ∧ r.state < LIBRADIO_STATE_ACTIVE)

instance (r : Radio) (p : Packet.Content) : Decidable (IsLocal r p) :=
  inferInstanceAs (Decidable (_ ∨ _))

/-- The branch of `enqueue` for the controller's own commands,
`src/control/enqueue.c:57-68`. -/
def executeLocal (b : Board σ) (c : Fin 6) (s : Ctl σ) : Ctl σ :=
  let p := (s.chan c).packet
  let r := mycommand b p s
  (((r.1.note (.exec p.content r.2)).reply r.2).setState c .empty).note (.finish c)

/-- The priority that a packet waits with, `src/control/enqueue.c:93-102`. -/
def queuePriority (c : Fin 6) (old : UInt8) : UInt8 :=
  if old = 0 then UInt8.ofNat (6 - c.val) <<< 3
  else if old < 0xfc then old + 1
  else old

/-- The branch of `enqueue` for a packet to be transmitted,
`src/control/enqueue.c:82-104`. -/
def queuePacket (c : Fin 6) (s : Ctl σ) : Ctl σ :=
  let p := (s.chan c).packet
  let st := if p.cmd = RADIO_CMD_STATUS then ChState.txrespond else ChState.transmit
  ((s.modify c fun chp ↦
    { chp with state := st, priority := queuePriority c chp.priority }).reply 0).note
      (.ack c p.content)

/-- `enqueue`, `src/control/enqueue.c:51-104`. -/
def enqueue (b : Board σ) (c : Fin 6) (s : Ctl σ) : Ctl σ :=
  let p := (s.chan c).packet
  let s := (s.note (.handed c p.content)).setState c .transmit
  if IsLocal s.dev.radio p.content then executeLocal b c s
  else if s.dev.radio.state ≠ LIBRADIO_STATE_ACTIVE then
    ((s.setState c .empty).note (.finish c)).reply RADIO_CTLERR_NOT_ACTIVE
  else queuePacket c s

end Ctl
end Libradio
