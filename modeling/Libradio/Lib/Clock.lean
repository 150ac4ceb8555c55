import Libradio.Lib.Radio

/-!
# The clock interrupt and the main-loop delay

`src/lib/clock.c`, `src/lib/init.c:83-96` and `src/lib/time.c`: one call of `clocktick`
per timer interrupt, the delay that releases the main loop, and the LED song.
-/

namespace Libradio

/-- LED songs of the seven states, `src/lib/clock.c:50`; `libradio_set_song`
(`src/lib/clock.c:174-180`) plays the song of ACTIVE for every state above it. -/
def songs : UInt8 → UInt16
  | 0 => 0xffff
  | 1 => 0x3333
  | 2 => 0x0
  | 3 => 0x1
  | 4 => 0xf
  | 5 => 0xff
  | _ => 0xf7

/-- `libradio_set_song`, `src/lib/clock.c:174-180`. -/
def libradioSetSong (newState : UInt8) (r : Radio) : Radio :=
  { r with heartBeat := songs newState }

/-- The LED part of `clocktick`, `src/lib/clock.c:75-79`. -/
def clocktickLed (r : Radio) : Radio :=
  let hb := r.hbclock + r.period
  if hb > 10 then
    let ledf : UInt16 := if r.heartBeat &&& 0x8000 ≠ 0 then 1 else 0
    { r with hbclock := hb - 10, heartBeat := (r.heartBeat <<< 1) ||| ledf }
  else { r with hbclock := hb }

/-- The time-of-day part of `clocktick`, `src/lib/clock.c:80-89`. -/
def clocktickTime (r : Radio) : Radio :=
  if r.tensOfMinutes ≠ 0xff then
    let ms := r.msTicks + r.period.toUInt16
    if ms ≥ 60000 then { r with msTicks := 0, tensOfMinutes := r.tensOfMinutes + 1 }
    else { r with msTicks := ms }
  else r

/-- The delay part of `clocktick`, `src/lib/clock.c:90-98`. -/
def clocktickMain (r : Radio) : Radio :=
  if r.mainTicks ≠ 0 then
    if r.mainTicks - 1 = 0 then { r with threadOk := true, mainTicks := r.tickCount }
    else { r with mainTicks := r.mainTicks - 1 }
  else r

/-- The seconds part of `clocktick`, `src/lib/clock.c:99-108`. -/
def clocktickSecond (r : Radio) : Radio :=
  let count := r.timerCount + r.period.toUInt16
  if count ≥ 100 then
    { r with timerCount := count - 100, elapsedSecond := true, allTicks := r.allTicks + 1 }
  else { r with timerCount := count, allTicks := r.allTicks + 1 }

/-- `clocktick`, `src/lib/clock.c:66-108`: its four parts in the order of the source. -/
def clocktick (r : Radio) : Radio :=
  clocktickSecond (clocktickMain (clocktickTime (clocktickLed r)))

/-- `n` clock interrupts in a row. -/
def clockticks : Nat → Radio → Radio
  | 0, r => r
  | n + 1, r => clockticks n (clocktick r)

/-- The variables that a clock interrupt has nothing to do with. -/
def Radio.untimed (r : Radio) : Radio :=
  { r with
    hbclock := 0, heartBeat := 0, msTicks := 0, tensOfMinutes := 0, mainTicks := 0
    threadOk := false, timerCount := 0, elapsedSecond := false, allTicks := 0 }

/-- Each part of a clock interrupt leaves them alone. -/
theorem untimed_clocktick (r : Radio) : (clocktick r).untimed = r.untimed := by
  have hled : (clocktickLed r).untimed = r.untimed := by
    unfold clocktickLed
    dsimp only
    split <;> rfl
  have htime (r : Radio) : (clocktickTime r).untimed = r.untimed := by
    unfold clocktickTime
    split
    · dsimp only
      split <;> rfl
    · rfl
  have hmain (r : Radio) : (clocktickMain r).untimed = r.untimed := by
    unfold clocktickMain
    split
    · split <;> rfl
    · rfl
  have hsecond (r : Radio) : (clocktickSecond r).untimed = r.untimed := by
    unfold clocktickSecond
    dsimp only
    split <;> rfl
  rw [clocktick, hsecond, hmain, htime, hled]

/-- Clock interrupts change the clock only. -/
theorem untimed_clockticks (n : Nat) (r : Radio) : (clockticks n r).untimed = r.untimed := by
  induction n generalizing r with
  | zero => rfl
  | succ n ih => rw [clockticks, ih, untimed_clocktick]

/-- `libradio_set_delay`, `src/lib/clock.c:125-132`. -/
def libradioSetDelay (delay : UInt16) (r : Radio) : Radio :=
  { r with tickCount := delay, mainTicks := if r.mainTicks = 0 then delay else r.mainTicks }

/-- `libradio_set_clock`, `src/lib/init.c:91-96`. -/
def libradioSetClock (fast slow : UInt8) (r : Radio) : Radio :=
  { r with fastPeriod := fast, period := fast, slowPeriod := slow }

/-- `libradio_irq_enable`, `src/lib/wait.c:85-102`. -/
def libradioIrqEnable (flag : UInt8) (r : Radio) : Radio :=
  { r with catchIrq := flag, irqFired := 0, int0Enabled := flag ≠ 0 }

end Libradio
