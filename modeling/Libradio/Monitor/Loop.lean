import Libradio.Client.Loop
import Libradio.Clock.Seconds
import Libradio.Monitor.Display

/-!
# The radio monitor

The main loop of `src/monitor/monitor.c`, cut into turns between which bytes can arrive, and the
commands of its console, `src/lib/debug.c`. A turn waits and asks the radio; then the loop takes a
packet and asks for the count, again and again, until there is no whole packet left.
-/

namespace Libradio
open Libradio.Base

variable {σ : Type}

abbrev SI4463_GET_PROPERTY : UInt8 := 0x12
abbrev SI4463_GET_MODEM_STATUS : UInt8 := 0x22

/-! ### The console -/

/-- The program's own `libradio_power_mode` does nothing, `src/monitor/monitor.c:184-188`: what the
library's would change stays as it is. The two periods are the same here. -/
def keepPowerMode (r : Radio) (d : Dev σ) : Dev σ :=
  { d with radio := { d.radio with period := r.period, prescaler := r.prescaler } }

/-- `libradio_debug` on one character, `src/lib/debug.c:57-138`, without what it prints; `none` is
the jump to the boot loader. -/
def libradioDebug (b : Board σ) (fuel : Nat) (ch : UInt8) (d : Dev σ) : Option (Dev σ) :=
  if ch = chNewline ∨ ch = chReturn then some d
  else if IsDigit ch then some { d with radio := { d.radio with myChannel := ch - chZero } }
  else if ch = 114 then none -- 'r'
  else if ch = 105 then some { d with radio := libradioIrqEnable 1 d.radio } -- 'i'
  else if ch = 111 then some { d with radio := libradioIrqEnable 0 d.radio } -- 'o'
  else if ch = 104 then -- 'h'
    some (keepPowerMode d.radio (libradioHandlePacket b Client.idleApp fuel 0 d))
  else if ch = 112 then some (libradioGetPartInfo b d) -- 'p'
  else if ch = 102 then some (libradioGetFuncInfo b d) -- 'f'
  else if ch = 99 then some (libradioGetChipStatus b d) -- 'c'
  else if ch = 100 then some (libradioRequestDeviceStatus b d).1 -- 'd'
  else if ch = 115 then some (libradioGetIntStatus b d) -- 's'
  else if ch = 71 then -- 'G' falls through to 'g'
    some (libradioGetFifoInfo b 0 (libradioGetFifoInfo b 3 d).1).1
  else if ch = 103 then some (libradioGetFifoInfo b 0 d).1 -- 'g'
  else if ch = 80 then some (storeOnly b [SI4463_GET_PROPERTY, 1, 4, 0] 6 d) -- 'P'
  else some d

/-! ### The program -/

/-- Where the program is: in front of `libradio_wait`, of the test of the inner loop, or of the
question at the end of its body; or it has jumped to the boot loader. -/
inductive Place
  | waiting
  | drain
  | ask
  | bootstrap
  deriving DecidableEq, Repr

/-- The device, `recvchan`, the two signal strengths of `struct libradio` that the program prints,
where it is, and the lines that `display_packet` has printed. -/
structure RadioMonitor (σ : Type) where
  dev : Dev σ
  recvchan : Channel
  currentRssi : UInt8
  latchRssi : UInt8
  place : Place
  out : List (List UInt8)

namespace RadioMonitor

/-- `libradio_get_modem_status`, `src/lib/radio.c:186-198`. -/
def libradioGetModemStatus (b : Board σ) (s : RadioMonitor σ) : RadioMonitor σ :=
  match b.exchange s.dev.chip [SI4463_GET_MODEM_STATUS] 6 with
  | (w, .ok v) =>
    { s with dev := { s.dev with chip := w }, currentRssi := v[2], latchRssi := v[3] }
  | (w, .error _) => { s with dev := { s.dev with chip := w } }

/-- The program up to its loop, `src/monitor/monitor.c:110-117`. -/
def start (b : Board σ) (d : Dev σ) : RadioMonitor σ :=
  let d := libradioInit b 0 0 0 0 d
  let r := libradioIrqEnable 1 (libradioSetClock 1 1 d.radio)
  let d := (libradioRecvStart b { d with radio := { r with myChannel := 0, currChannel := 0 } }).1
  let r := libradioSetState LIBRADIO_STATE_ACTIVE { d.radio with myNodeId := 0 }
  { dev := { d with radio := libradioSetDelay 100 r }
    recvchan := .zero, currentRssi := 0, latchRssi := 0, place := .waiting, out := [] }

/-- The clock of the monitor wraps after a day, `src/monitor/monitor.c:130-131`. -/
def wrapDay (r : Radio) : Radio :=
  let second := libradioElapsedSecond r
  if second.2 ∧ second.1.tensOfMinutes > 143 then { second.1 with tensOfMinutes := 0 }
  else second.1

/-- The questions of a turn, `src/monitor/monitor.c:132-137`: `libradio_wait` never returns zero. -/
def question (b : Board σ) (s : RadioMonitor σ) : RadioMonitor σ :=
  let d := libradioGetIntStatus b (libradioGetFifoInfo b 0 s.dev).1
  let s := libradioGetModemStatus b { s with dev := d }
  { s with dev := { s.dev with radio := libradioIrqEnable 1 s.dev.radio }, place := .drain }

/-- A turn up to the inner loop, `src/monitor/monitor.c:127-137`, with the next character of the
console, if there is one. -/
def turn (b : Board σ) (fuel : Nat) (key : Option UInt8) (s : RadioMonitor σ) : RadioMonitor σ :=
  if Wakes key.isSome s.dev.radio then
    let woken := { s.dev with radio := { s.dev.radio with threadOk := false } }
    match key.elim (some woken) fun ch ↦ libradioDebug b fuel ch woken with
    | none => { s with place := .bootstrap }
    | some d => question b { s with dev := { d with radio := wrapDay d.radio } }
  else s

/-- The test of the inner loop and its body up to the question, `src/monitor/monitor.c:141-143`. -/
def drain (b : Board σ) (s : RadioMonitor σ) : RadioMonitor σ :=
  if 16 ≤ s.dev.radio.rxFifo then
    let r := libradioRecv b s.dev s.recvchan.packet s.dev.radio.myChannel
    { s with
      dev := r.dev
      recvchan := { s.recvchan with packet := r.packet }
      place := .ask
      out := if r.ok then
        s.out ++ [displayPacket r.dev.radio.myChannel s.currentRssi s.latchRssi r.packet]
      else s.out }
  else { s with place := .waiting }

/-- The end of the inner loop's body, `src/monitor/monitor.c:144`. -/
def ask (b : Board σ) (s : RadioMonitor σ) : RadioMonitor σ :=
  { s with dev := (libradioGetFifoInfo b 0 s.dev).1, place := .drain }

/-- The program goes on, with the next character of the console. -/
def proceed (b : Board σ) (fuel : Nat) (key : Option UInt8) (s : RadioMonitor σ) :
    RadioMonitor σ :=
  match s.place with
  | .waiting => s.turn b fuel key
  | .drain => s.drain b
  | .ask => s.ask b
  | .bootstrap => s

end RadioMonitor
end Libradio
