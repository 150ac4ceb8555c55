import Libradio.Lib.Types

/-!
# The library's state and the hardware behind it

`src/lib/internal.h`: `struct libradio`, together with the file-scope variables of
`clock.c` and `wait.c` and the two registers the library programs. The identification
and status fields that the library stores and only the debug console prints are left
out. The Si4463, the EEPROM and the converter sit outside the repository: `Board` is
what the library can ask of them.
-/

namespace Libradio

/-- The two divisors of Timer1 that `libradio_power_mode` selects;
`src/lib/power_mode.c:55-62`. -/
inductive Prescaler
  | div64
  | div1024
  deriving DecidableEq, Repr

/-- `struct libradio`, `src/lib/internal.h:155-217`, then the variables of
`src/lib/clock.c:51-55`, `src/lib/wait.c:48` and the registers `TCCR1B`, `EIMSK`. -/
structure Radio where
  state : UInt8
  tensOfMinutes : UInt8
  msTicks : UInt16
  slowPeriod : UInt8
  fastPeriod : UInt8
  period : UInt8
  heartBeat : UInt16
  date : UInt16
  timeout : UInt16
  allTicks : UInt16
  mainTicks : UInt16
  tickCount : UInt16
  catchIrq : UInt8
  myChannel : UInt8
  currChannel : UInt8
  myNodeId : UInt8
  cat1 : UInt8
  cat2 : UInt8
  num1 : UInt8
  num2 : UInt8
  npacketRx : UInt16
  npacketTx : UInt16
  currState : UInt8
  radioActive : Bool
  rxFifo : UInt8
  txFifo : UInt8
  sawRx : Bool
  hbclock : UInt8
  timerCount : UInt16
  threadOk : Bool
  elapsedSecond : Bool
  irqFired : UInt8
  prescaler : Prescaler
  int0Enabled : Bool
  deriving DecidableEq, Repr

namespace Radio

/-- `memset` of the whole struct in `libradio_init`; the other variables are static. -/
def zero : Radio :=
  { state := 0, tensOfMinutes := 0, msTicks := 0, slowPeriod := 0, fastPeriod := 0
    period := 0, heartBeat := 0, date := 0, timeout := 0, allTicks := 0, mainTicks := 0
    tickCount := 0, catchIrq := 0, myChannel := 0, currChannel := 0, myNodeId := 0
    cat1 := 0, cat2 := 0, num1 := 0, num2 := 0, npacketRx := 0, npacketTx := 0
    currState := 0, radioActive := false, rxFifo := 0, txFifo := 0, sawRx := false
    hbclock := 0, timerCount := 0, threadOk := false, elapsedSecond := false
    irqFired := 0, prescaler := .div64, int0Enabled := false }

end Radio

/-- The failure codes of `pkt_send`, `src/lib/internal.h:91-96`. -/
inductive SpiError
  | writeFail
  | statusFail
  | ackFail
  | readFail
  | timeout
  deriving DecidableEq, Repr

/-! ### Command bytes of the Si4463, `src/lib/internal.h:43-76` -/

abbrev SI4463_PART_INFO : UInt8 := 0x01
abbrev SI4463_FUNC_INFO : UInt8 := 0x10
abbrev SI4463_FIFO_INFO : UInt8 := 0x15
abbrev SI4463_GET_INT_STATUS : UInt8 := 0x20
abbrev SI4463_GET_CHIP_STATUS : UInt8 := 0x23
abbrev SI4463_START_TX : UInt8 := 0x31
abbrev SI4463_START_RX : UInt8 := 0x32
abbrev SI4463_REQUEST_DEVICE_STATE : UInt8 := 0x33

/-! ### Device states of the Si4463, `src/lib/internal.h:78-86` -/

abbrev SI4463_STATE_NOCHANGE : UInt8 := 0
abbrev SI4463_STATE_SLEEP : UInt8 := 1
abbrev SI4463_STATE_READY : UInt8 := 3
abbrev SI4463_STATE_TX : UInt8 := 7
abbrev SI4463_STATE_RX : UInt8 := 8

/-- The hardware as the library sees it, over any internal state `σ`: one exchange of
`pkt_send` (command bytes out, `n` reply bytes back, or a failure code), the block
writes and reads of the two FIFOs, and a conversion of `analog_read`. -/
structure Board (σ : Type) where
  exchange : σ → List UInt8 → (n : Nat) → σ × Except SpiError (Vector UInt8 n)
  writeTxFifo : σ → List UInt8 → σ
  readRxFifo : σ → (n : Nat) → σ × Vector UInt8 n
  analogRead : σ → UInt8 → σ × UInt16

/-- Hardware whose radio answers exchange number `n` with the bytes `reply n`, takes every
block and never receives one. -/
def Board.scripted (reply : Nat → Nat → UInt8) : Board Nat where
  exchange n _ _ := (n + 1, .ok (Vector.ofFn fun i ↦ reply n i.val))
  writeTxFifo n _ := n
  readRxFifo n _ := (n, Vector.replicate _ 0)
  analogRead n _ := (n, 0)

/-- One device: the library's variables, its hardware, and the receive, transmit and
status buffers of `src/lib/handle.c:42-43` and `src/lib/command.c:50`. Memory behind
the status buffer and behind a packet's data array is part of the state, since the
command handler can reach it; but what else that memory is, a READ_EEPROM of more than
16 bytes writes over it, is not: runs with one are outside of this model. -/
structure Dev (σ : Type) where
  radio : Radio
  chip : σ
  eeprom : UInt16 → UInt8
  rxchan : Channel
  txchan : Channel
  statusbuffer : Nat → UInt8
  beyondData : UInt8

end Libradio
