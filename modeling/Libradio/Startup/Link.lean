import Libradio.Control.Loop
import Libradio.Lrmon.ParseData

/-!
# lrmond and the controller over a serial line

The two programs and what is under way between them. Both directions keep their order and
may be delayed: the controller reads one byte of the oldest line at a time, between any of
its own actions, and lrmond reads one line at a time, between expiries of its timers. The
line that the controller was reading when it printed an answer is noted with the answer;
neither program knows it.
-/

namespace Libradio
open Libradio.Base

namespace Startup
open Lrmon

/-- lrmond, the controller, all lines that lrmond has written, numbered from zero, how many of
them the controller has read and how many bytes of the next one, all lines the controller has
printed, each with the number of the line it was printed for, how many of these lrmond has
read, and how many lines lrmond had written when it entered its state. -/
structure World (σ : Type) where
  mon : Monitor
  ctl : Ctl σ
  lines : List (List UInt8)
  done : Nat
  column : Nat
  printed : List (Option Nat × Line)
  heard : Nat
  entered : Nat

namespace World

variable {σ : Type}

/-- The line the controller is reading. -/
def reading (w : World σ) : List UInt8 := w.lines.getD w.done []

/-- lrmond writes a line. -/
def write (w : World σ) (line : List UInt8) : World σ := { w with lines := w.lines ++ [line] }

/-- lrmond has new variables and sends messages. -/
def monTurn (w : World σ) (r : Monitor × List (List UInt8)) : World σ :=
  { w with
    mon := r.1
    lines := w.lines ++ r.2.map sioSend
    entered := if r.1.state = w.mon.state then w.entered else w.lines.length }

/-- The controller has taken an action; what it has printed is on its way. -/
def ctlTurn (w : World σ) (tag : Option Nat) (ctl : Ctl σ) : World σ :=
  { w with
    ctl := ctl
    printed := w.printed ++ (ctl.out.drop w.ctl.out.length).map fun line ↦ (tag, line) }

/-- The controller has read a byte. -/
def advance (w : World σ) : World σ :=
  if w.column + 1 < w.reading.length then { w with column := w.column + 1 }
  else { w with done := w.done + 1, column := 0 }

end World

/-- What can happen next: lrmond is started anew, one of its timers expires or it reads a
line; the controller reads a byte or takes another part of its loop. -/
inductive Event
  | restart
  | timer (clock : HostClock)
  | statusTimer
  | receive (clock : HostClock)
  | deliver
  | tick
  | poll
  | check (between inSend : Nat)

/-- The line written by `sio_init`, `src/lrmon/serial.c:124-130`. -/
def bootstrap : List UInt8 := sioSend [chR]

variable {σ : Type}

/-- lrmond starts: `main` of `src/lrmon/main.c:56-105`, up to its loop. -/
def restart (w : World σ) : World σ :=
  { w with mon := Monitor.init, entered := w.lines.length }.write bootstrap

/-- The controller reads the next byte. -/
def deliver (b : Board σ) (w : World σ) : World σ :=
  match w.reading[w.column]? with
  | none => w
  | some ch => (w.ctlTurn (some w.done) (Ctl.step b w.ctl (.input ch))).advance

/-- lrmond reads the next line. -/
def receive (clock : HostClock) (w : World σ) : World σ :=
  match w.printed[w.heard]? with
  | none => w
  | some (_, line) =>
    { w with heard := w.heard + 1 }.monTurn (parseData clock line.text w.mon)

/-- One event. -/
def step (b : Board σ) (w : World σ) : Event → World σ
  | .restart => restart w
  | .timer clock => if w.mon.timer = none then w else w.monTurn (stateMachine clock w.mon)
  | .statusTimer =>
    if w.mon.statusTimer = none then w else w.monTurn (dynamicStatusTimer w.mon)
  | .receive clock => receive clock w
  | .deliver => deliver b w
  | .tick => w.ctlTurn none (Ctl.step b w.ctl .tick)
  | .poll => w.ctlTurn none (Ctl.step b w.ctl .poll)
  | .check between inSend => w.ctlTurn none (Ctl.step b w.ctl (.check between inSend))

/-- Both programs have just been started. -/
def initial (b : Board σ) (chip : σ) (eeprom : UInt16 → UInt8) (beyondData : UInt8) : World σ :=
  let ctl := Ctl.start b chip eeprom beyondData
  restart
    { mon := Monitor.init, ctl := ctl, lines := [], done := 0, column := 0
      printed := ctl.out.map fun line ↦ (none, line), heard := 0, entered := 0 }

/-! ### What the record says about the start-up -/

/-- One entry of the record, for the last command `cmd` that was executed with result 0. -/
def execAfter (cmd : UInt8) (o : Obs) (last : Option Packet.Content) : Option Packet.Content :=
  match o with
  | .exec p code => if p.cmd = cmd ∧ code = 0 then some p else last
  | .reset => none
  | _ => last

/-- The last command `cmd` that was executed with result 0 since the controller's last start. -/
def lastExec (cmd : UInt8) (h : List Obs) : Option Packet.Content := h.foldr (execAfter cmd) none

/-- One entry of the record, for the last configuration of channel `c`. -/
def configAfter (c : Fin 6) (o : Obs) (last : Option UInt8) : Option UInt8 :=
  match o with
  | .setChannel d config => if d = c then some config else last
  | .reset => none
  | _ => last

/-- The last configuration of channel `c` since the controller's last start. -/
def lastConfig (c : Fin 6) (h : List Obs) : Option UInt8 := h.foldr (configAfter c) none

/-- The packet is one that a line of lrmond writes. -/
def Sent (lines : List (List UInt8)) (p : Packet.Content) : Prop :=
  ∃ l : CommandLine, sioSend l.text ∈ lines ∧ l.Writes p

/-- The controller is up and running for lrmond: it is ACTIVE, it has executed a SET_TIME and
a SET_DATE of lrmond since its last start, and its channels are configured. -/
structure Agrees (w : World σ) : Prop where
  active : w.ctl.dev.radio.state = LIBRADIO_STATE_ACTIVE
  time : ∃ p, lastExec RADIO_CMD_SET_TIME w.ctl.hist = some p ∧ Sent w.lines p
  date : ∃ p, lastExec RADIO_CMD_SET_DATE w.ctl.hist = some p ∧ Sent w.lines p ∧
    w.ctl.dev.radio.date = word (dataByte p.data 0) (dataByte p.data 1)
  empty : ∀ c : Fin 6, c.val < 3 → lastConfig c w.ctl.hist = some 2
  read : lastConfig 3 w.ctl.hist = some 1

end Startup
end Libradio
