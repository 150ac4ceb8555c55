import Libradio.Lib.Clock

/-!
# The operational state machine

`src/lib/state.c` and the library's own `src/lib/power_mode.c`.
-/

namespace Libradio

/-- `libradio_power_mode`, `src/lib/power_mode.c:52-66`. -/
def libradioPowerMode (hiFlag : Bool) (r : Radio) : Radio :=
  if hiFlag then { r with period := r.fastPeriod, prescaler := .div64 }
  else { r with period := r.slowPeriod, prescaler := .div1024 }

/-- Entry into COLD or WARM, `src/lib/state.c:79-92`. -/
def enterSleep (newState : UInt8) (r : Radio) : Radio :=
  let r := libradioPowerMode false r
  let r := { r with tensOfMinutes := 0xff }
  let ticks : Nat := if newState = LIBRADIO_STATE_WARM then 30000 else 360000
  libradioSetDelay (UInt16.ofNat (min (ticks / r.period.toNat) 65535)) r

/-- Entry into LISTEN, `src/lib/state.c:94-119`. -/
def enterListen (r : Radio) : Radio :=
  let asleep := r.state = LIBRADIO_STATE_COLD ∨ r.state = LIBRADIO_STATE_WARM
  let r := if asleep then libradioPowerMode true r else r
  let r := { r with myChannel := 0, sawRx := false }
  let r :=
    if r.state = LIBRADIO_STATE_COLD then
      { r with timeout := UInt16.ofNat (6000 / r.fastPeriod.toNat) }
    else { r with timeout := UInt16.ofNat (12000 / r.fastPeriod.toNat) }
  libradioSetDelay 500 r

/-- Entry into ERROR, `src/lib/state.c:121-126`. -/
def enterError (r : Radio) : Radio :=
  libradioSetDelay (UInt16.ofNat (6000 / r.period.toNat)) r

/-- Entry into any other state, `src/lib/state.c:128-136`. -/
def enterActive (r : Radio) : Radio :=
  { libradioPowerMode true r with timeout := 6000 }

/-- `libradio_set_state`, `src/lib/state.c:70-139`. -/
def libradioSetState (newState : UInt8) (r : Radio) : Radio :=
  if newState ≠ LIBRADIO_STATE_STARTUP ∧ r.state = newState then r
  else
    let r := libradioSetSong newState r
    let r :=
      if newState = LIBRADIO_STATE_COLD ∨ newState = LIBRADIO_STATE_WARM then
        enterSleep newState r
      else if newState = LIBRADIO_STATE_LISTEN then enterListen r
      else if newState = LIBRADIO_STATE_ERROR then enterError r
      else enterActive r
    { r with state := newState }

/-- The state asked for is the state afterwards. -/
@[simp] theorem state_libradioSetState (newState : UInt8) (r : Radio) :
    (libradioSetState newState r).state = newState := by
  unfold libradioSetState
  split
  · next h => exact h.2
  · rfl

end Libradio
