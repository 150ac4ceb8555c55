import Libradio.Base.Run
import Libradio.Lib.Command

/-!
# The main loop of a client

`libradio_handle_packet` of `src/lib/handle.c`, `libradio_wait` of `src/lib/wait.c` with the
interrupt routine `src/lib/radio_irq.S`, and `libradio_rxloop` of `src/lib/loop.c`. A client
starts the library, sets its clock and listens (`src/examples/oiltank.c:117-120`), and calls
the loop for ever.
-/

namespace Libradio
open Libradio.Base

variable {σ : Type}

/-- `libradio_handle_packet`, `src/lib/handle.c:49-61`. The clock interrupts that fall between
the reception and the command are an argument. -/
def libradioHandlePacket (b : Board σ) (app : App σ) (fuel ticks : Nat) (d : Dev σ) : Dev σ :=
  let r := libradioRecv b d d.rxchan.packet d.radio.myChannel
  let d := { r.dev with
    rxchan := { r.dev.rxchan with packet := r.packet }
    radio := clockticks ticks r.dev.radio }
  if r.ok then
    if r.packet.node = 0 ∨ r.packet.node = d.radio.myNodeId then
      libradioCommand b app fuel r.packet d
    else d
  else d

/-- `radio_irq`, `src/lib/radio_irq.S:43-60`. -/
def radioIrq (r : Radio) : Radio := { r with irqFired := r.irqFired + 1, int0Enabled := false }

/-- `libradio_wait` returns, `src/lib/wait.c:56-74`: the radio has interrupted, the delay is
over, or there is serial input. -/
def Wakes (serial : Bool) (r : Radio) : Prop :=
  r.irqFired ≠ 0 ∨ r.threadOk = true ∨ serial = true

instance (serial : Bool) (r : Radio) : Decidable (Wakes serial r) :=
  inferInstanceAs (Decidable (_ ∨ _))

/-- The part of `libradio_rxloop` after a radio interrupt, `src/lib/loop.c:58-63`. -/
def rxloopReceive (b : Board σ) (app : App σ) (fuel ticks : Nat) (d : Dev σ) : Dev σ :=
  let d := { d with radio := libradioSetDelay 5 d.radio }
  let d := libradioGetIntStatus b (libradioHandlePacket b app fuel ticks d)
  { d with radio := libradioIrqEnable 1 d.radio }

/-- A pass in one of the active states, `src/lib/loop.c:97-111`. -/
def rxloopActive (r : Radio) : Radio :=
  let r := if r.sawRx then { r with timeout := 60000, sawRx := false } else r
  let r := { r with timeout := r.timeout - 1 }
  if r.timeout = 0 then libradioSetState LIBRADIO_STATE_WARM r else r

/-- The states that the loop leaves for LISTEN, `src/lib/loop.c:77-79`. -/
def IsAsleep (state : UInt8) : Prop :=
  state = LIBRADIO_STATE_STARTUP ∨ state = LIBRADIO_STATE_COLD ∨ state = LIBRADIO_STATE_WARM

instance (state : UInt8) : Decidable (IsAsleep state) := inferInstanceAs (Decidable (_ ∨ _))

/-- The `switch` of `libradio_rxloop`, `src/lib/loop.c:69-113`. -/
def rxloopSwitch (r : Radio) : Radio :=
  if r.state = LIBRADIO_STATE_ERROR then libradioSetState LIBRADIO_STATE_WARM r
  else if IsAsleep r.state then libradioSetState LIBRADIO_STATE_LISTEN r
  else if r.state = LIBRADIO_STATE_LISTEN then r
  else rxloopActive r

/-- The part of a pass before the `switch`. -/
def rxloopHandle (b : Board σ) (app : App σ) (fuel ticks : Nat) (d : Dev σ) : Dev σ :=
  let woken := { d with radio := { d.radio with threadOk := false } }
  if d.radio.irqFired ≠ 0 then rxloopReceive b app fuel ticks woken else woken

/-- `libradio_rxloop`, `src/lib/loop.c:50-114`: one pass, if there is a reason to wake up. -/
def libradioRxloop (b : Board σ) (app : App σ) (fuel ticks : Nat) (serial : Bool) (d : Dev σ) :
    Dev σ :=
  if Wakes serial d.radio then
    let d := rxloopHandle b app fuel ticks d
    { d with radio := rxloopSwitch d.radio }
  else d

namespace Client

/-- What can happen to a client: a clock interrupt, an interrupt of the radio, or a pass of
the loop with or without serial input and with the clock interrupts inside it. -/
inductive Event
  | tick
  | interrupt
  | pass (ticks : Nat) (serial : Bool)
  deriving DecidableEq, Repr

/-- One event. -/
def step (b : Board σ) (app : App σ) (fuel : Nat) (d : Dev σ) : Event → Dev σ
  | .tick => { d with radio := clocktick d.radio }
  | .interrupt => if d.radio.int0Enabled then { d with radio := radioIrq d.radio } else d
  | .pass ticks serial => libradioRxloop b app fuel ticks serial d

/-- The identity a client is started with. -/
structure Identity where
  cat1 : UInt8
  cat2 : UInt8
  num1 : UInt8
  num2 : UInt8
  deriving DecidableEq, Repr

/-- A client up to its loop, `src/examples/oiltank.c:117-120`: `libradio_init` with its
identity, `libradio_set_clock` with its two periods, `libradio_recv_start` and
`libradio_irq_enable`. -/
def start (b : Board σ) (id : Identity) (fast slow : UInt8) (d : Dev σ) : Dev σ :=
  let d := libradioInit b id.cat1 id.cat2 id.num1 id.num2 d
  let d := (libradioRecvStart b { d with radio := libradioSetClock fast slow d.radio }).1
  { d with radio := libradioIrqEnable 1 d.radio }

/-- A device as it is switched on, with an empty EEPROM. -/
def powerOn (chip : σ) : Dev σ :=
  { radio := .zero, chip := chip, eeprom := fun _ ↦ 0xff, rxchan := .zero, txchan := .zero
    statusbuffer := fun _ ↦ 0, beyondData := 0 }

/-- An application that does nothing with the packets it is passed and has no status. -/
def idleApp : App σ := ⟨fun _ d ↦ d, fun _ d ↦ (d, 0)⟩

/-- A radio that answers sixteen to every question, or only to those about its FIFOs, and
delivers the frames of some packets, one at each reading. -/
def feed (packets : List Packet) (answers : Bool) : Board Nat where
  exchange k cmd _ := (k, if answers ∨ cmd.head? = some SI4463_FIFO_INFO then
    .ok (Vector.ofFn fun _ ↦ 16) else .error .timeout)
  writeTxFifo k _ := k
  readRxFifo k _ :=
    (k + 1, Vector.ofFn fun i ↦ (((packets.getD k .zero).stamp 0).frame).getD i.val 0)
  analogRead k _ := (k, 0)

/-- A radio interrupt and the pass that answers it. -/
def hear : List Event := [.interrupt, .pass 0 false]

/-- An activation with an identity. -/
def activation (id : Identity) (channel node : UInt8) : Packet :=
  { Packet.zero with
    cmd := RADIO_CMD_ACTIVATE
    len := 6
    data := #v[channel, node, id.cat1, id.cat2, id.num1, id.num2, 0, 0, 0, 0] }

end Client
end Libradio
