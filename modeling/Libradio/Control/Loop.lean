import Libradio.Base.Run
import Libradio.Control.Input

/-!
# The main loop

`tx_check_queues` of `src/control/transmit.c`, `txresponse` of `src/control/response.c` and
the loop of `src/control/main.c`. The clock interrupt, the two halves of a pass around the
serial character and the character itself are separate actions; a pass of the loop is a
sequence of them.
-/

namespace Libradio
open Libradio.Base

namespace Ctl

variable {σ : Type}

/-- Building the SET_TIME packet of a time slot, `src/control/transmit.c:99-108`. -/
def timePacket (tens : UInt8) (p : Packet) : Packet :=
  { p with node := 0, len := 1, cmd := RADIO_CMD_SET_TIME, data := p.data.setIfInBounds 0 tens }

/-- The channel whose time slot it is, `src/control/transmit.c:93`. -/
def slotChannel (r : Radio) : Fin 6 := ⟨r.msTicks.toNat / 500 % 6, Nat.mod_lt _ (by decide)⟩

/-- The time slot of channel `c`, `src/control/transmit.c:95-109`. -/
def fillSlot (c : Fin 6) (s : Ctl σ) : Ctl σ :=
  if (s.chan c).state = .empty then
    let p := timePacket s.dev.radio.tensOfMinutes (s.chan c).packet
    (s.modify c fun _ ↦ ⟨.transmit, 0xff, p⟩).note (.slot c p.content)
  else s

/-- A channel that the priority scan does not skip, `src/control/transmit.c:122-123`. -/
def IsReady (chp : Channel) : Prop :=
  chp.priority ≠ 0 ∧ ChState.transmit.toNat ≤ chp.state.toNat

instance (chp : Channel) : Decidable (IsReady chp) := inferInstanceAs (Decidable (_ ∧ _))

/-- One channel of the priority scan, `src/control/transmit.c:122-125`: the one chosen so far
gives way to a ready one with a higher priority. -/
def scanReady (s : Ctl σ) (best : Option (Fin 6)) (c : Fin 6) : Option (Fin 6) :=
  if IsReady (s.chan c) then
    match best with
    | none => some c
    | some n => if (s.chan c).priority > (s.chan n).priority then some c else some n
  else best

/-- The priority scan, `src/control/transmit.c:119-127`: the first of the ready channels with
the highest priority. -/
def pickReady (s : Ctl σ) : Option (Fin 6) := (List.finRange 6).foldl (scanReady s) none

/-- One channel of the last loop of `tx_check_queues`, `src/control/transmit.c:157-158`. -/
def age (chp : Channel) : Channel :=
  if ChState.transmit.toNat ≤ chp.state.toNat ∧ chp.priority < 0xfc then
    { chp with priority := chp.priority + 2 }
  else chp

/-- What follows a successful send, `src/control/transmit.c:137-150`. -/
def sentOn (c : Fin 6) (s : Ctl σ) : Ctl σ :=
  if (s.chan c).state = .txrespond then
    { s.modify c fun chp ↦ { chp with state := .rxresponse1, priority := 0 } with
      dev := { s.dev with radio := libradioIrqEnable 1 s.dev.radio }
      respChp := some c }
  else s.modify c fun chp ↦ { chp with state := .empty, priority := 0 }

/-- The call of `libradio_send` for channel `c`, `src/control/transmit.c:134-151`. -/
def sendOn (b : Board σ) (ticks : Nat) (c : Fin 6) (s : Ctl σ) : Ctl σ :=
  let chp := s.chan c
  let r := libradioSend b ticks s.dev chp (UInt8.ofNat c.val)
  let s := { s.modify c fun chp ↦ { chp with packet := r.packet } with dev := r.dev }
  let s := s.note (.send c chp.state chp.packet.content r.ok)
  if r.ok then sentOn c s else s

/-- The first reading of the clock, `src/control/transmit.c:86,111`, and the clock interrupts
up to the second one. -/
def readClock (between : Nat) (s : Ctl σ) : Ctl σ :=
  { s with
    lastModulo := s.dev.radio.msTicks.toNat % 500
    dev := { s.dev with radio := clockticks between s.dev.radio } }

/-- The rest of `tx_check_queues` once a channel is chosen, `src/control/transmit.c:129-159`. -/
def transmitOn (b : Board σ) (ticks : Nat) (c : Fin 6) (s : Ctl σ) : Ctl σ :=
  if (s.chan c).state.toNat < ChState.empty.toNat then s
  else
    let s := sendOn b ticks c s
    { s with channels := s.channels.map age }

/-- `tx_check_queues`, `src/control/transmit.c:73-160`, with the clock interrupts between its
two readings of the clock and those inside the send. Each reading of the 16-bit `ms_ticks` is one
step: no interrupt comes between its two bytes. -/
def txCheckQueues (b : Board σ) (between inSend : Nat) (s : Ctl σ) : Ctl σ :=
  if s.dev.radio.state < LIBRADIO_STATE_LISTEN then s
  else
    let slot := s.dev.radio.msTicks.toNat % 500 < s.lastModulo
    let s := readClock between s
    if slot then
      let c := slotChannel s.dev.radio
      transmitOn b inSend c (fillSlot c s)
    else
      match pickReady s with
      | none => s
      | some c => transmitOn b inSend c s

/-- The channel whose time slot a pass falls on: the clock has wrapped around since the last
pass that looked at it. -/
def slotDue (between : Nat) (s : Ctl σ) : Option (Fin 6) :=
  if s.dev.radio.state < LIBRADIO_STATE_LISTEN then none
  else if s.dev.radio.msTicks.toNat % 500 < s.lastModulo then
    some (slotChannel (clockticks between s.dev.radio))
  else none

/-- `txresponse`, `src/control/response.c:57-77`. -/
def txresponse (b : Board σ) (c : Fin 6) (s : Ctl σ) : Ctl σ :=
  let chan := s.dev.radio.currChannel
  let node := (s.chan c).packet.node
  let r := libradioRecv b s.dev (s.chan c).packet chan
  let s := { s.modify c fun chp ↦ { chp with packet := r.packet } with dev := r.dev }
  if r.ok then
    s.print (.report chan node r.packet.ticks r.packet.cmd
      (r.packet.data.toList.take r.packet.len.toNat))
  else s

/-- The end of a response wait, `src/control/main.c:98-99,107-108`. -/
def endWait (c : Fin 6) (s : Ctl σ) : Ctl σ :=
  { (s.setState c .empty).note (.wait c .empty) with respChp := none }

/-- The response wait of one pass, `src/control/main.c:95-112`. -/
def poll (b : Board σ) (s : Ctl σ) : Ctl σ :=
  match s.respChp with
  | none => s
  | some c =>
    let avail := libradioCheckRx b s.dev
    let s := { s with dev := avail.1 }
    if avail.2 then endWait c (txresponse b c s)
    else if (s.chan c).state = .rxresponse4 then endWait c s
    else
      let st := (s.chan c).state.next
      (s.setState c st).note (.wait c st)

/-- The transmissions of one pass, `src/control/main.c:121-122`. -/
def check (b : Board σ) (between inSend : Nat) (s : Ctl σ) : Ctl σ :=
  if s.respChp = none then txCheckQueues b between inSend s else s

/-- What the transmissions of a pass come to: nothing while a response is awaited or nobody listens,
the time slot of a channel, and else the packet that the priority scan picks, if any. -/
inductive Checked (b : Board σ) (between inSend : Nat) (s s' : Ctl σ) : Prop
  | awaiting (awaited : s.respChp ≠ none) (eq : s' = s)
  | deaf (free : s.respChp = none) (deaf : s.dev.radio.state < LIBRADIO_STATE_LISTEN)
      (eq : s' = s)
  | slot (c : Fin 6) (free : s.respChp = none)
      (listens : ¬ s.dev.radio.state < LIBRADIO_STATE_LISTEN) (due : slotDue between s = some c)
      (eq : s' = transmitOn b inSend c (fillSlot c (readClock between s)))
  | idle (free : s.respChp = none) (listens : ¬ s.dev.radio.state < LIBRADIO_STATE_LISTEN)
      (due : slotDue between s = none) (none : pickReady (readClock between s) = none)
      (eq : s' = readClock between s)
  | picked (c : Fin 6) (free : s.respChp = none)
      (listens : ¬ s.dev.radio.state < LIBRADIO_STATE_LISTEN) (due : slotDue between s = none)
      (some : pickReady (readClock between s) = some c)
      (eq : s' = transmitOn b inSend c (readClock between s))

/-- Every pass is one of these cases. -/
theorem checked_check (b : Board σ) (between inSend : Nat) (s : Ctl σ) :
    Checked b between inSend s (check b between inSend s) := by
  by_cases hfree : s.respChp = none
  · rw [check, if_pos hfree, txCheckQueues]
    by_cases hdeaf : s.dev.radio.state < LIBRADIO_STATE_LISTEN
    · rw [if_pos hdeaf]
      exact .deaf hfree hdeaf rfl
    · rw [if_neg hdeaf]
      dsimp only
      by_cases hfall : s.dev.radio.msTicks.toNat % 500 < s.lastModulo
      · rw [if_pos hfall]
        refine .slot _ hfree hdeaf ?_ rfl
        rw [slotDue, if_neg hdeaf, if_pos hfall]
        rfl
      · rw [if_neg hfall]
        have hdue : slotDue between s = none := by
          rw [slotDue, if_neg hdeaf, if_neg hfall]
        cases hpick : pickReady (readClock between s) with
        | none => exact .idle hfree hdeaf hdue hpick rfl
        | some c => exact .picked c hfree hdeaf hdue hpick rfl
  · rw [check, if_neg hfree]
    exact .awaiting hfree rfl

/-- The actions a run is made of. -/
inductive Act
  | tick
  | poll
  | input (ch : UInt8)
  | check (between inSend : Nat)
  deriving DecidableEq, Repr

/-- One action. -/
def step (b : Board σ) (s : Ctl σ) : Act → Ctl σ
  | .tick => { s with dev := { s.dev with radio := clocktick s.dev.radio } }
  | .poll => poll b s
  | .input ch => processInput b ch s
  | .check between inSend => check b between inSend s

/-- One pass of the main loop: the clock interrupts while it waits, a character if there is
one, and the clock interrupts during the transmissions. -/
structure Pass where
  ticks : Nat
  input : Option UInt8
  between : Nat
  inSend : Nat

/-- The controller when a pass has come to its character. -/
def beforeInput (b : Board σ) (s : Ctl σ) (p : Pass) : Ctl σ :=
  run (step b) s (List.replicate p.ticks .tick ++ [.poll])

/-- The controller after a pass, `src/control/main.c:87-123`. -/
def pass (b : Board σ) (s : Ctl σ) (p : Pass) : Ctl σ :=
  run (step b) (beforeInput b s p)
    (p.input.toList.map .input ++ [.check p.between p.inSend])

end Ctl
end Libradio
