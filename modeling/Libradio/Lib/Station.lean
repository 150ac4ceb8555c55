import Libradio.Lib.Power

/-!
# What stations are set up for

The variables that say what a station is doing and whom it listens to, and which functions of
the library leave them alone.
-/

namespace Libradio

/-- The assignment of a station, its identity, its timeout, its date, whether its radio is
powered up, and its clock periods. -/
structure Station where
  state : UInt8
  myChannel : UInt8
  myNodeId : UInt8
  cat1 : UInt8
  cat2 : UInt8
  num1 : UInt8
  num2 : UInt8
  timeout : UInt16
  date : UInt16
  radioActive : Bool
  period : UInt8
  fastPeriod : UInt8
  slowPeriod : UInt8
  deriving DecidableEq, Repr

namespace Radio

/-- The station of a radio. -/
def station (r : Radio) : Station :=
  ⟨r.state, r.myChannel, r.myNodeId, r.cat1, r.cat2, r.num1, r.num2, r.timeout, r.date,
    r.radioActive, r.period, r.fastPeriod, r.slowPeriod⟩

end Radio

private theorem station_untimed (r : Radio) : r.untimed.station = r.station := rfl

/-- A clock interrupt. -/
@[simp] theorem station_clocktick (r : Radio) : (clocktick r).station = r.station := by
  rw [← station_untimed, untimed_clocktick, station_untimed]

/-- Clock interrupts leave the station alone. -/
@[simp] theorem station_clockticks (n : Nat) (r : Radio) :
    (clockticks n r).station = r.station := by
  rw [← station_untimed, untimed_clockticks, station_untimed]

/-- A delay leaves the station alone. -/
@[simp] theorem station_libradioSetDelay (delay : UInt16) (r : Radio) :
    (libradioSetDelay delay r).station = r.station := rfl

/-- Enabling interrupts leaves the station alone. -/
@[simp] theorem station_libradioIrqEnable (flag : UInt8) (r : Radio) :
    (libradioIrqEnable flag r).station = r.station := rfl

/-- Going to ERROR changes the state only. -/
theorem station_libradioSetState_error (r : Radio) :
    (libradioSetState LIBRADIO_STATE_ERROR r).station =
      { r.station with state := LIBRADIO_STATE_ERROR } := by
  unfold libradioSetState
  split
  · next h =>
    have hstate : r.state = LIBRADIO_STATE_ERROR := h.2
    rw [← hstate]
    rfl
  · rfl

/-- Going to ACTIVE changes the state, the timeout and the period. -/
theorem station_libradioSetState_active (r : Radio) :
    ∃ timeout period, (libradioSetState LIBRADIO_STATE_ACTIVE r).station =
      { r.station with state := LIBRADIO_STATE_ACTIVE, timeout := timeout, period := period } := by
  unfold libradioSetState
  split
  · next h =>
    have hstate : r.state = LIBRADIO_STATE_ACTIVE := h.2
    refine ⟨r.timeout, r.period, ?_⟩
    rw [← hstate]
    rfl
  · exact ⟨_, _, rfl⟩

/-- Going to WARM changes the state and the period. -/
theorem station_libradioSetState_warm (r : Radio) :
    ∃ period, (libradioSetState LIBRADIO_STATE_WARM r).station =
      { r.station with state := LIBRADIO_STATE_WARM, period := period } := by
  unfold libradioSetState
  split
  · next h =>
    have hstate : r.state = LIBRADIO_STATE_WARM := h.2
    refine ⟨r.period, ?_⟩
    rw [← hstate]
    rfl
  · exact ⟨_, rfl⟩

/-- Going to LISTEN from another state also goes to channel 0. -/
theorem station_libradioSetState_listen {r : Radio} (h : r.state ≠ LIBRADIO_STATE_LISTEN) :
    ∃ timeout period, (libradioSetState LIBRADIO_STATE_LISTEN r).station =
      { r.station with
        state := LIBRADIO_STATE_LISTEN, myChannel := 0, timeout := timeout, period := period } := by
  unfold libradioSetState
  rw [if_neg fun hc ↦ h hc.2]
  dsimp only
  rw [if_neg (by decide), if_pos rfl]
  unfold enterListen
  dsimp only
  split
  · split <;> exact ⟨_, _, rfl⟩
  · split <;> exact ⟨_, _, rfl⟩

end Libradio
