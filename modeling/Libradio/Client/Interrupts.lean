import Libradio.Client.Pass
import Libradio.Client.Start
import Libradio.Lib.Si4463

/-!
# The radio interrupt, step by step

A pass of the loop cut into the steps between which a frame can arrive or the interrupt
routine can run. The radio keeps a pending status, drives one falling edge when it becomes
pending, and is not pending any more once GET_INT_STATUS was asked; the processor keeps an
edge until the interrupt is enabled.
-/

namespace Libradio
open Libradio.Base

/-- The radio's FIFOs and whether its interrupt is pending. -/
structure IrqChip where
  chip : Si4463
  pending : Bool
  deriving DecidableEq, Repr

/-- A radio that answers every exchange. -/
def IrqChip.board (reply : Nat → Nat → UInt8) : Board IrqChip :=
  let b := Si4463.board fun k ↦ .done (reply k)
  { exchange := fun w cmd n ↦
      (⟨(b.exchange w.chip cmd n).1, w.pending && cmd.head? ≠ some SI4463_GET_INT_STATUS⟩,
        (b.exchange w.chip cmd n).2)
    writeTxFifo := fun w bs ↦ ⟨b.writeTxFifo w.chip bs, w.pending⟩
    readRxFifo := fun w n ↦ (⟨(b.readRxFifo w.chip n).1, w.pending⟩, (b.readRxFifo w.chip n).2)
    analogRead := fun w ch ↦ (⟨(b.analogRead w.chip ch).1, w.pending⟩,
      (b.analogRead w.chip ch).2) }

/-- Where the client is: waiting, or in front of the question for the FIFO's contents, of the
reading, of the first enabling of the interrupt, of the rest of the reception and the command,
of GET_INT_STATUS, or of the second enabling. The channel, the packet and what the reception
returns are the local variables. -/
inductive Point
  | waiting
  | check
  | read (channo : UInt8)
  | rearm (channo : UInt8) (p : Packet) (ok : Bool)
  | command (channo : UInt8) (p : Packet) (ok : Bool)
  | status
  | enable
  deriving DecidableEq, Repr

/-- The client, an edge the processor has seen and not acted on, and where the client is. -/
structure Micro where
  dev : Dev IrqChip
  latched : Bool
  point : Point

/-- What can happen: a frame arrives, the interrupt routine runs, the clock ticks, or the
client goes on, with or without serial input if it is waiting. -/
inductive Happening
  | arrive (frame : Vector UInt8 16)
  | isr
  | tick
  | proceed (serial : Bool)
  deriving DecidableEq, Repr

namespace Micro

/-- A frame at the end of the FIFO; an edge if the interrupt was not pending. -/
def arrive (frame : Vector UInt8 16) (s : Micro) : Micro :=
  { s with
    dev := { s.dev with chip :=
      ⟨{ s.dev.chip.chip with rxFifo := s.dev.chip.chip.rxFifo ++ frame.toList }, true⟩ }
    latched := s.latched || !s.dev.chip.pending }

/-- The interrupt routine, if there is an edge and it is enabled, `src/lib/radio_irq.S:43-60`. -/
def isr (s : Micro) : Micro :=
  if s.latched && s.dev.radio.int0Enabled then
    { s with dev := { s.dev with radio := radioIrq s.dev.radio }, latched := false }
  else s

variable (reply : Nat → Nat → UInt8) (app : App IrqChip) (fuel : Nat)

/-- `libradio_wait`, and `libradio_set_delay` if it is the radio, `src/lib/loop.c:58-59`. -/
def wake (serial : Bool) (s : Micro) : Micro :=
  if Wakes serial s.dev.radio then
    let woken := { s.dev.radio with threadOk := false }
    if s.dev.radio.irqFired ≠ 0 then
      { s with dev := { s.dev with radio := libradioSetDelay 5 woken }, point := .check }
    else { s with dev := { s.dev with radio := rxloopSwitch woken } }
  else s

/-- `libradio_check_rx`, `src/lib/rxtx.c:78`. -/
def check (s : Micro) : Micro :=
  let avail := libradioCheckRx (IrqChip.board reply) s.dev
  { s with
    dev := avail.1
    point := if avail.2 then .read s.dev.radio.myChannel
      else .command s.dev.radio.myChannel s.dev.rxchan.packet false }

/-- `libradio_rxpacket` and what depends on its result, `src/lib/rxtx.c:82-99`. -/
def read (channo : UInt8) (s : Micro) : Micro :=
  let r := libradioRxpacket (IrqChip.board reply) s.dev s.dev.rxchan.packet
  let counted := { r.dev.radio with npacketRx := r.dev.radio.npacketRx + 1, sawRx := true }
  { s with
    dev := if r.ok then { r.dev with radio := counted }
      else (libradioGetFifoInfo (IrqChip.board reply) 2 r.dev).1
    point := .rearm channo r.packet r.ok }

/-- The first enabling of the interrupt, `src/lib/rxtx.c:104-105`. -/
def rearm (channo : UInt8) (p : Packet) (ok : Bool) (s : Micro) : Micro :=
  { s with
    dev := if s.dev.radio.catchIrq ≠ 0 then
      { s.dev with radio := libradioIrqEnable 1 s.dev.radio } else s.dev
    point := .command channo p ok }

/-- The end of the reception, `src/lib/rxtx.c:108-111`, and the command,
`src/lib/handle.c:57-60`. -/
def command (channo : UInt8) (p : Packet) (ok : Bool) (s : Micro) : Micro :=
  let heard := listenAgain (IrqChip.board reply) channo s.dev
  let taken := { heard with rxchan := { heard.rxchan with packet := p } }
  { s with
    dev := if ok then
      if p.node = 0 ∨ p.node = taken.radio.myNodeId then
        libradioCommand (IrqChip.board reply) app fuel p taken
      else taken
    else taken
    point := .status }

/-- `libradio_get_int_status`, `src/lib/loop.c:61`. -/
def status (s : Micro) : Micro :=
  { s with dev := libradioGetIntStatus (IrqChip.board reply) s.dev, point := .enable }

/-- The second enabling of the interrupt and the `switch`, `src/lib/loop.c:62-113`. -/
def enable (s : Micro) : Micro :=
  { s with
    dev := { s.dev with radio := rxloopSwitch (libradioIrqEnable 1 s.dev.radio) }
    point := .waiting }

/-- The next step of the client. -/
def proceed (serial : Bool) (s : Micro) : Micro :=
  match s.point with
  | .waiting => s.wake serial
  | .check => s.check reply
  | .read channo => s.read reply channo
  | .rearm channo p ok => s.rearm channo p ok
  | .command channo p ok => s.command reply app fuel channo p ok
  | .status => s.status reply
  | .enable => s.enable

/-- One happening. -/
def step (s : Micro) : Happening → Micro
  | .arrive frame => s.arrive frame
  | .isr => s.isr
  | .tick => { s with dev := { s.dev with radio := clocktick s.dev.radio } }
  | .proceed serial => s.proceed reply app fuel serial

/-- A client that has just been started. -/
def start (id : Client.Identity) (fast slow : UInt8) (d : Dev IrqChip) : Micro :=
  ⟨Client.start (IrqChip.board reply) id fast slow d, false, .waiting⟩

/-- Nothing is left behind: if the client is waiting without an interrupt, handled or not, then
there is no whole packet in the FIFO. -/
def NoneStranded (s : Micro) : Prop :=
  s.point = .waiting → s.dev.radio.irqFired = 0 → s.latched = false →
    s.dev.chip.chip.rxFifo.length < 16

/-- The client goes on from `waiting` until it is waiting again. -/
def wholePass (serial : Bool) (s : Micro) : Micro :=
  let steps := if s.dev.radio.irqFired = 0 then 1
    else if (libradioCheckRx (IrqChip.board reply) s.dev).2 then 7 else 5
  run (step reply app fuel) s (List.replicate steps (.proceed serial))

/-- From the question for the FIFO's contents on, the steps are the handling of a packet, the
rest of `rxloopReceive`, and the `switch`. -/
theorem steps_from_check (serial : Bool) (d : Dev IrqChip) (latched : Bool) :
    run (step reply app fuel) ⟨d, latched, .check⟩ (List.replicate
        (if (libradioCheckRx (IrqChip.board reply) d).2 then 6 else 4) (.proceed serial)) =
      let e := libradioGetIntStatus (IrqChip.board reply)
        (libradioHandlePacket (IrqChip.board reply) app fuel 0 d)
      ⟨{ e with radio := rxloopSwitch (libradioIrqEnable 1 e.radio) }, latched, .waiting⟩ := by
  have hcheck : step reply app fuel ⟨d, latched, .check⟩ (.proceed serial) =
      check reply ⟨d, latched, .check⟩ := rfl
  have hread (d channo) : step reply app fuel ⟨d, latched, .read channo⟩ (.proceed serial) =
      read reply channo ⟨d, latched, .read channo⟩ := rfl
  have hrearm (d channo p ok) :
      step reply app fuel ⟨d, latched, .rearm channo p ok⟩ (.proceed serial) =
        rearm channo p ok ⟨d, latched, .rearm channo p ok⟩ := rfl
  have hcommand (d channo p ok) :
      step reply app fuel ⟨d, latched, .command channo p ok⟩ (.proceed serial) =
        command reply app fuel channo p ok ⟨d, latched, .command channo p ok⟩ := rfl
  have hstatus (d) : step reply app fuel ⟨d, latched, .status⟩ (.proceed serial) =
      status reply ⟨d, latched, .status⟩ := rfl
  have henable (d) : step reply app fuel ⟨d, latched, .enable⟩ (.proceed serial) =
      enable ⟨d, latched, .enable⟩ := rfl
  have hchan : (libradioCheckRx (IrqChip.board reply) d).1.rxchan = d.rxchan :=
    (asked_libradioGetFifoInfo (IrqChip.board reply).keeps_true 0 d).rxchan
  unfold libradioHandlePacket libradioRecv countReceived
  by_cases hmany : (libradioCheckRx (IrqChip.board reply) d).2 = true
  · simp only [hmany, List.replicate, run_cons, run_nil, hcheck, check, hread, read, hrearm,
      rearm, hcommand, command, hstatus, status, henable, enable, if_true, clockticks, hchan]
  · have hfew : (libradioCheckRx (IrqChip.board reply) d).2 = false := by simpa using hmany
    simp only [hfew, List.replicate, run_cons, run_nil, hcheck, check, hcommand, command,
      hstatus, status, henable, enable, Bool.false_eq_true, if_false, clockticks]

/-- With nothing in between, the steps are a pass of the loop. -/
theorem wholePass_eq {serial : Bool} {s : Micro} (hpoint : s.point = .waiting)
    (hwakes : Wakes serial s.dev.radio) :
    s.wholePass reply app fuel serial =
      ⟨libradioRxloop (IrqChip.board reply) app fuel 0 serial s.dev, s.latched, .waiting⟩ := by
  obtain ⟨d, latched, point⟩ := s
  cases hpoint
  dsimp only at hwakes ⊢
  have hfirst : step reply app fuel ⟨d, latched, .waiting⟩ (.proceed serial) =
      wake serial ⟨d, latched, .waiting⟩ := rfl
  rw [libradioRxloop, if_pos hwakes]
  unfold wholePass rxloopHandle
  dsimp only
  by_cases hirq : d.radio.irqFired = 0
  · rw [if_pos hirq, if_neg (not_not_intro hirq), List.replicate_one, run_cons, run_nil, hfirst,
      wake, if_pos hwakes]
    dsimp only
    rw [if_neg (not_not_intro hirq)]
  · have hsteps := steps_from_check reply app fuel serial
      { d with radio := libradioSetDelay 5 { d.radio with threadOk := false } } latched
    have hchip (r : Radio) : ({ d with radio := r } : Dev IrqChip).chip = d.chip := rfl
    have hcheck := (libradioCheckRx_chip (IrqChip.board reply)
      (hchip (libradioSetDelay 5 { d.radio with threadOk := false }))).1
    have hlen : (if (libradioCheckRx (IrqChip.board reply) d).2 = true then 7 else 5) =
        (if (libradioCheckRx (IrqChip.board reply) d).2 = true then 6 else 4) + 1 := by
      split <;> rfl
    rw [hcheck] at hsteps
    rw [if_neg hirq, if_pos hirq, hlen, List.replicate_succ, run_cons, hfirst, wake,
      if_pos hwakes]
    dsimp only
    rw [if_pos hirq, hsteps]
    unfold rxloopReceive
    dsimp only

end Micro

end Libradio
