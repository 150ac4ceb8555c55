import Libradio.Lrmon.Command

/-!
# The state machine of lrmond

`src/lrmon/state.c`: lrmond asks for the controller's status, activates it, sets its clock
and its channels, one command after the other, and starts over with a reset when a step has
been tried too often. Each state of the source is one function, which goes on with the next
one where the source falls through.
-/

namespace Libradio
namespace Lrmon

/-- `STATE_UNKNOWN` to `STATE_READY`, `src/lrmon/state.c:48-59`. -/
inductive MonState
  | unknown
  | srequest
  | sendReset
  | drequest
  | activate
  | setTime
  | setDate
  | activateCh (i : Fin 4)
  | ready
  deriving DecidableEq, Repr

/-- `struct sstatus`, `src/lrmon/lrmon.h:52-55`. -/
structure SStatus where
  c1 : Int8
  c2 : Int8
  n1 : Int8
  n2 : Int8
  fwH : Int8
  fwL : Int8
  deriving DecidableEq, Repr

/-- `struct dstatus`, `src/lrmon/lrmon.h:60-66`. -/
structure DStatus where
  radioState : Int8
  tensOfMinutes : Int8
  batteryVoltage : Int32
  npacketRx : Int32
  npacketTx : Int32
  deriving DecidableEq, Repr

/-- The variables of lrmond: `src/lrmon/state.c:61-62`, `src/lrmon/command.c:46`,
`src/lrmon/response.c:44-47`, and the seconds its two timers were last set to, if they are
pending. -/
structure Monitor where
  state : MonState
  retries : Nat
  failureStatus : Int
  responseReceived : Nat
  responseNode : Int
  sstatus : SStatus
  dstatus : DStatus
  timer : Option Nat
  statusTimer : Option Nat
  deriving DecidableEq, Repr

namespace Monitor

/-- `state_init`, `src/lrmon/state.c:69-75`, in a new process. -/
def init : Monitor :=
  { state := .unknown, retries := 0, failureStatus := 0, responseReceived := 0
    responseNode := 0, sstatus := ⟨0, 0, 0, 0, 0, 0⟩, dstatus := ⟨0, 0, 0, 0, 0⟩
    timer := some 3, statusTimer := none }

end Monitor

/-- One call of `state_machine`: the variables, the messages for `sio_send`, and
`next_timeout`. -/
structure Turn where
  mon : Monitor
  sent : List (List UInt8)
  nextTimeout : Nat

/-- `dynamic_status_timer`, `src/lrmon/state.c:230-236`. -/
def dynamicStatusTimer (m : Monitor) : Monitor × List (List UInt8) :=
  ({ m with statusTimer := some 300 }, [requestLocalStatus RADIO_STATUS_DYNAMIC])

/-- `chstate`, `src/lrmon/state.c:187,205`. -/
def chstate (i : Fin 4) : Nat := if i = 3 then ChState.read.toNat else ChState.empty.toNat

/-- `STATE_ACTIVATE_CH0` to `STATE_ACTIVATE_CH3`, `src/lrmon/state.c:182-207`: the state of
the next channel is computed from the number of this one. -/
def onActivateCh (i : Fin 4) (m : Monitor) : Turn :=
  if m.failureStatus ≠ 0 then
    ⟨{ m with retries := m.retries + 1 }, [setChannel i.val (chstate i)], 5⟩
  else
    let m := { m with retries := 0 }
    if i = 3 then
      let r := dynamicStatusTimer { m with state := .ready }
      ⟨r.1, r.2, 5⟩
    else
      ⟨{ m with failureStatus := -1, state := .activateCh (i + 1) },
        [setChannel (i + 1).val (chstate i)], 5⟩

/-- `STATE_SET_DATE`, `src/lrmon/state.c:168-180`. -/
def onSetDate (clock : HostClock) (m : Monitor) : Turn :=
  if m.failureStatus ≠ 0 then ⟨{ m with retries := m.retries + 1 }, [setDate clock], 5⟩
  else onActivateCh 0 { m with failureStatus := -1, state := .activateCh 0, retries := 0 }

/-- `STATE_SET_TIME`, `src/lrmon/state.c:154-166`. -/
def onSetTime (clock : HostClock) (m : Monitor) : Turn :=
  if m.failureStatus ≠ 0 then ⟨{ m with retries := m.retries + 1 }, setTime clock, 5⟩
  else onSetDate clock { m with failureStatus := -1, state := .setDate, retries := 0 }

/-- `STATE_ACTIVATE`, `src/lrmon/state.c:140-152`. -/
def onActivate (clock : HostClock) (m : Monitor) : Turn :=
  if m.failureStatus ≠ 0 then ⟨{ m with retries := m.retries + 1 }, [localActivate], 5⟩
  else onSetTime clock { m with failureStatus := -1, state := .setTime, retries := 0 }

/-- `STATE_DREQUEST`, `src/lrmon/state.c:117-138`. -/
def onDrequest (clock : HostClock) (m : Monitor) : Turn :=
  if m.responseReceived = 0 then
    ⟨{ m with retries := m.retries + 1 }, [requestLocalStatus RADIO_STATUS_DYNAMIC], 5⟩
  else
    let m := { m with retries := 0 }
    if m.responseNode = 1 then
      ⟨{ m with state := .setTime, failureStatus := -1 }, setTime clock, 5⟩
    else onActivate clock { m with state := .activate, failureStatus := -1 }

/-- `STATE_SREQUEST`, `src/lrmon/state.c:104-115`. -/
def onSrequest (clock : HostClock) (m : Monitor) : Turn :=
  if m.responseReceived = 0 then
    ⟨{ m with retries := m.retries + 1 }, [requestLocalStatus RADIO_STATUS_STATIC], 3⟩
  else onDrequest clock { m with state := .drequest, responseReceived := 0, retries := 0 }

/-- `STATE_SEND_RESET`, `src/lrmon/state.c:92-97`. -/
def onSendReset (m : Monitor) : Turn :=
  ⟨{ m with state := .unknown, retries := 0 }, [resetController], 5⟩

/-- The `switch` of `state_machine`; it is left at once in `STATE_READY`. -/
def onState (clock : HostClock) (m : Monitor) : Turn :=
  match m.state with
  | .sendReset => onSendReset m
  | .unknown =>
    onSrequest clock { m with responseReceived := 0, retries := 0, state := .srequest }
  | .srequest => onSrequest clock m
  | .drequest => onDrequest clock m
  | .activate => onActivate clock m
  | .setTime => onSetTime clock m
  | .setDate => onSetDate clock m
  | .activateCh i => onActivateCh i m
  | .ready => ⟨m, [], 600⟩

/-- `state_machine`, `src/lrmon/state.c:80-216`. -/
def stateMachine (clock : HostClock) (m : Monitor) : Monitor × List (List UInt8) :=
  if m.state = .ready then ({ m with timer := none }, [])
  else
    let t := onState clock (if m.retries > 10 then { m with state := .sendReset } else m)
    ({ t.mon with timer := some t.nextTimeout }, t.sent)

end Lrmon
end Libradio
