import Libradio.Client.Commands
import Libradio.Client.Reception
import Libradio.Clock.Time
import Libradio.Control.Input

/-!
# The range of the clock

`ms_ticks` counts up to 59,999 (`src/README.md:182-199`). The clock interrupt keeps it
there; the two places that store a value from outside, a received packet
(`src/lib/packet.c:154-161`) and SET_TIME on the serial line
(`src/control/command.c:102-114`), store whatever they are given.
-/

namespace Libradio
open Libradio.Base

variable {σ : Type}

/-- The clock is where it can be counted on. -/
def InRange (r : Radio) : Prop := r.msTicks ≤ 59999

instance (r : Radio) : Decidable (InRange r) := inferInstanceAs (Decidable (_ ≤ _))

/-- Only the time-of-day part of a clock interrupt touches the clock. -/
theorem msTicks_clocktick (r : Radio) :
    (clocktick r).msTicks =
      if r.tensOfMinutes ≠ 0xff then
        (if r.msTicks + r.period.toUInt16 ≥ 60000 then 0 else r.msTicks + r.period.toUInt16)
      else r.msTicks := by
  have hms (r : Radio) : r.msTicks = r.dial.time.ms := rfl
  have hafter : (r.dial.after 1).time = Time.tick r.period r.time := rfl
  rw [hms (clocktick r), dial_clocktick, hafter, Time.tick]
  by_cases hruns : r.tensOfMinutes ≠ 0xff
  · rw [if_pos hruns]
    by_cases hcarry : r.msTicks + r.period.toUInt16 ≥ 60000
    · rw [if_pos hcarry, if_pos ⟨hruns, hcarry⟩]
    · rw [if_neg hcarry, if_neg fun hc ↦ hcarry hc.2, if_pos (show r.time.Runs from hruns)]
      rfl
  · rw [if_neg hruns, if_neg fun hc ↦ hruns hc.1, if_neg (show ¬ r.time.Runs from hruns)]
    rfl

/-- A clock interrupt keeps the range. -/
theorem inRange_clocktick {r : Radio} (h : InRange r) : InRange (clocktick r) := by
  unfold InRange at h ⊢
  rw [msTicks_clocktick]
  split
  · split
    · decide
    · next hlt =>
      simp only [ge_iff_le, UInt16.le_iff_toNat_le, UInt16.reduceToNat] at hlt ⊢
      omega
  · exact h

/-- No change of state touches the clock. -/
@[simp] theorem msTicks_libradioSetState (newState : UInt8) (r : Radio) :
    (libradioSetState newState r).msTicks = r.msTicks := by
  unfold libradioSetState
  dsimp only
  split
  · rfl
  · split
    · rfl
    · split
      · unfold enterListen
        dsimp only
        split <;> split <;> rfl
      · split <;> rfl

/-- What happens to a clock: an interrupt, a packet read into some buffer, a SET_TIME. -/
inductive ClockEvent
  | tick
  | receive (buffer : Packet)
  | setTime (p : Packet)
  deriving DecidableEq, Repr

/-- The client's clock: SET_TIME comes in a packet. -/
def Client.clockStep (b : Board σ) (app : App σ) (d : Dev σ) : ClockEvent → Dev σ
  | .tick => { d with radio := clocktick d.radio }
  | .receive buffer => (libradioRxpacket b d buffer).dev
  | .setTime p => libradioCommand b app 0 { p with cmd := RADIO_CMD_SET_TIME } d

/-- The controller's clock: SET_TIME comes over the serial line. -/
def Ctl.clockStep (b : Board σ) (s : Ctl σ) : ClockEvent → Ctl σ
  | .tick => { s with dev := { s.dev with radio := clocktick s.dev.radio } }
  | .receive buffer => { s with dev := (libradioRxpacket b s.dev buffer).dev }
  | .setTime p => (Ctl.mycommand b { p with cmd := RADIO_CMD_SET_TIME } s).1

/-- A packet whose checksum is good does not carry a time out of range, if it carries one. -/
def TimeInRange (p : Packet) : Prop :=
  p.checksum = 0 → p.cmd < RADIO_STATUS_RESPONSE → p.ticks ≤ 59999

instance (p : Packet) : Decidable (TimeInRange p) := inferInstanceAs (Decidable (_ → _))

/-- A client's event brings no time out of range. -/
def Client.BringsInRange (b : Board σ) (d : Dev σ) : ClockEvent → Prop
  | .tick => True
  | .receive buffer => TimeInRange (rxRead b d buffer)
  | .setTime _ => True

/-- A controller's event brings no time out of range. -/
def Ctl.BringsInRange (b : Board σ) (s : Ctl σ) : ClockEvent → Prop
  | .tick => True
  | .receive buffer => TimeInRange (rxRead b s.dev buffer)
  | .setTime p => p.len = 3 → word (dataByte p.data 0) (dataByte p.data 1) ≤ 59999

/-- A packet that is read keeps the range exactly when it carries no time out of range. -/
theorem inRange_libradioRxpacket (b : Board σ) {d : Dev σ} (h : InRange d.radio)
    (buffer : Packet) :
    InRange (libradioRxpacket b d buffer).dev.radio ↔ TimeInRange (rxRead b d buffer) := by
  obtain ⟨-, hcase⟩ := libradioRxpacket_spec b.keeps_true d buffer
  generalize libradioRxpacket b d buffer = r at hcase ⊢
  generalize rxRead b d buffer = p at hcase ⊢
  unfold InRange TimeInRange at *
  rcases hcase with ⟨-, hsum, hask⟩ | ⟨-, hsum, hask⟩
  · have hms := congrArg Radio.msTicks hask.radio
    change r.dev.radio.msTicks = (d.radio.hear p).msTicks at hms
    rw [hms, Radio.hear]
    split
    · next hcmd => exact ⟨fun hle _ _ ↦ hle, fun hp ↦ hp hsum hcmd⟩
    · next hcmd => exact iff_of_true h fun _ hc ↦ absurd hc hcmd
  · have hms := congrArg Radio.msTicks hask.radio
    change r.dev.radio.msTicks = d.radio.msTicks at hms
    rw [hms]
    exact iff_of_true h fun hp ↦ absurd hp hsum

/-- A client's SET_TIME only sets the tens of minutes. -/
theorem msTicks_setTime_client (b : Board σ) (app : App σ) {p : Packet}
    (hp : p.cmd = RADIO_CMD_SET_TIME) (d : Dev σ) :
    (libradioCommand b app 0 p d).radio.msTicks = d.radio.msTicks := by
  cases executed_libradioCommand b app 0 p d with
  | nothing act deact request eq => rw [eq]
  | activated act eq => exact absurd (hp.symm.trans act.1) (by decide)
  | deactivated deact eq => exact absurd (hp.symm.trans deact.1) (by decide)
  | setTime active cmd len eq => rw [eq]
  | setDate active cmd len eq => exact absurd (hp.symm.trans cmd) (by decide)
  | silent active cmd => exact absurd (hp.symm.trans cmd) (by decide)
  | status active cmd => exact absurd (hp.symm.trans cmd) (by decide)
  | readEeprom buffer addr active cmd => exact absurd (hp.symm.trans cmd) (by decide)
  | writeEeprom eeprom active cmd => exact absurd (hp.symm.trans cmd) (by decide)
  | operate active cmd =>
    rw [hp] at cmd
    exact absurd cmd (by decide)

/-- The controller's SET_TIME stores the two bytes it is given. -/
theorem msTicks_setTime_controller (b : Board σ) {p : Packet} (hp : p.cmd = RADIO_CMD_SET_TIME)
    (s : Ctl σ) :
    (Ctl.mycommand b p s).1.dev.radio.msTicks =
      if p.len = 3 then word (dataByte p.data 0) (dataByte p.data 1) else s.dev.radio.msTicks := by
  unfold Ctl.mycommand
  rw [if_neg (by rw [hp]; decide), if_neg (by rw [hp]; decide), if_pos hp]
  by_cases hlen : p.len = 3
  · rw [if_neg (not_not_intro hlen), if_pos hlen]
  · rw [if_pos hlen, if_neg hlen]

/-- One event of a client keeps the range exactly when it brings no time out of range. -/
theorem Client.inRange_clockStep (b : Board σ) (app : App σ) (d : Dev σ) (e : ClockEvent)
    (h : InRange d.radio) :
    InRange (Client.clockStep b app d e).radio ↔ Client.BringsInRange b d e := by
  cases e with
  | tick =>
    have hr : Client.clockStep b app d .tick = { d with radio := clocktick d.radio } := rfl
    rw [hr, Client.BringsInRange, iff_true]
    dsimp only
    exact inRange_clocktick h
  | receive buffer =>
    rw [Client.clockStep, Client.BringsInRange]
    exact inRange_libradioRxpacket b h buffer
  | setTime p =>
    rw [Client.BringsInRange, iff_true, InRange, Client.clockStep,
      msTicks_setTime_client b app rfl]
    exact h

/-- One event of a controller keeps the range exactly when it brings no time out of range. -/
theorem Ctl.inRange_clockStep (b : Board σ) (s : Ctl σ) (e : ClockEvent)
    (h : InRange s.dev.radio) :
    InRange (Ctl.clockStep b s e).dev.radio ↔ Ctl.BringsInRange b s e := by
  cases e with
  | tick =>
    have hr : Ctl.clockStep b s .tick =
        { s with dev := { s.dev with radio := clocktick s.dev.radio } } := rfl
    rw [hr, Ctl.BringsInRange, iff_true]
    dsimp only
    exact inRange_clocktick h
  | receive buffer =>
    have hr : Ctl.clockStep b s (.receive buffer) =
        { s with dev := (libradioRxpacket b s.dev buffer).dev } := rfl
    have hrx := inRange_libradioRxpacket b h buffer
    generalize libradioRxpacket b s.dev buffer = r at hr hrx
    rw [hr, Ctl.BringsInRange]
    exact hrx
  | setTime p =>
    have hr : Ctl.clockStep b s (.setTime p) =
        (Ctl.mycommand b { p with cmd := RADIO_CMD_SET_TIME } s).1 := rfl
    rw [InRange, hr, msTicks_setTime_controller b rfl, Ctl.BringsInRange]
    by_cases hlen : p.len = 3
    · rw [if_pos hlen]
      exact ⟨fun hle _ ↦ hle, fun himp ↦ himp hlen⟩
    · rw [if_neg hlen]
      exact iff_of_true h fun hc ↦ absurd hc hlen

/-- No power-up touches the clock. -/
theorem msTicks_libradioPowerUp (b : Board σ) (d : Dev σ) :
    (libradioPowerUp b d).1.radio.msTicks = d.radio.msTicks :=
  congrArg (fun t ↦ t.time.ms) (dial_libradioPowerUp b d)

/-- The library starts with its clock at zero. -/
theorem msTicks_libradioInit (b : Board σ) (c1 c2 n1 n2 : UInt8) (d : Dev σ) :
    (libradioInit b c1 c2 n1 n2 d).radio.msTicks = 0 := by
  unfold libradioInit
  dsimp only
  generalize hr : libradioSetClock 1 16 _ = r
  have hms : r.msTicks = 0 := by
    rw [← hr]
    exact msTicks_libradioSetState LIBRADIO_STATE_STARTUP _
  have hask := congrArg Radio.msTicks (asked_libradioGetFifoInfo b.keeps_true 3
    { d with radio := { r with
      period := r.fastPeriod, tensOfMinutes := 0xff, mainTicks := 5, tickCount := 5
      currState := SI4463_STATE_SLEEP, cat1 := c1, cat2 := c2, num1 := n1, num2 := n2 } }).radio
  exact hask.trans hms

/-- A client starts with its clock at zero. -/
theorem Client.msTicks_start (b : Board σ) (id : Identity) (fast slow : UInt8) (d : Dev σ) :
    (Client.start b id fast slow d).radio.msTicks = 0 := by
  have hup (d : Dev σ) : (libradioRecvStart b d).1.radio.msTicks = d.radio.msTicks := by
    unfold libradioRecvStart
    dsimp only
    split <;> exact msTicks_libradioPowerUp b d
  exact (hup _).trans (msTicks_libradioInit b _ _ _ _ d)

/-- A controller starts with its clock at zero. -/
theorem Ctl.msTicks_start (b : Board σ) (chip : σ) (eeprom : UInt16 → UInt8)
    (beyondData : UInt8) : (Ctl.start b chip eeprom beyondData).dev.radio.msTicks = 0 :=
  (msTicks_libradioSetState _ _).trans (msTicks_libradioInit b _ _ _ _ _)

/-- In every run of a client and in every run of a controller, the clock is at most 59,999 all
the time exactly when no packet with a good checksum that carries a time, and on the
controller no SET_TIME, brings a time above. -/
theorem clock_in_range_iff (b : Board σ) :
    (∀ (app : App σ) (id : Client.Identity) (fast slow : UInt8) (d : Dev σ)
      (events : List ClockEvent),
      (∀ pre, pre <+: events → InRange
        (run (Client.clockStep b app) (Client.start b id fast slow d) pre).radio) ↔
        Along (Client.clockStep b app) (Client.BringsInRange b) (Client.start b id fast slow d)
          events) ∧
    ∀ (chip : σ) (eeprom : UInt16 → UInt8) (beyondData : UInt8) (events : List ClockEvent),
      (∀ pre, pre <+: events → InRange
        (run (Ctl.clockStep b) (Ctl.start b chip eeprom beyondData) pre).dev.radio) ↔
        Along (Ctl.clockStep b) (Ctl.BringsInRange b) (Ctl.start b chip eeprom beyondData)
          events := by
  constructor
  · intro app id fast slow d events
    have h0 : InRange (Client.start b id fast slow d).radio := by
      rw [InRange, Client.msTicks_start]
      decide
    rw [forall_prefix_iff (Client.clockStep b app) (fun d ↦ InRange d.radio), and_iff_right h0]
    exact along_iff_of_inv _ (fun d e h hg ↦ (Client.inRange_clockStep b app d e h).mpr hg)
      (fun d e h ↦ Client.inRange_clockStep b app d e h) h0
  · intro chip eeprom beyondData events
    have h0 : InRange (Ctl.start b chip eeprom beyondData).dev.radio := by
      rw [InRange, Ctl.msTicks_start]
      decide
    rw [forall_prefix_iff (Ctl.clockStep b) (fun s ↦ InRange s.dev.radio), and_iff_right h0]
    exact along_iff_of_inv _ (fun s e h hg ↦ (Ctl.inRange_clockStep b s e h).mpr hg)
      (fun s e h ↦ Ctl.inRange_clockStep b s e h) h0

-- A radio with a frame in its FIFO that has a good checksum and a time of 65,535.
private def fastClockRadio : Board Nat where
  exchange := (Board.scripted fun _ _ ↦ 16).exchange
  writeTxFifo := (Board.scripted fun _ _ ↦ 16).writeTxFifo
  readRxFifo chip _ := (chip, Vector.ofFn fun i ↦ if i.val < 2 then 0xff else 0)
  analogRead := (Board.scripted fun _ _ ↦ 16).analogRead

-- The three bytes of a SET_TIME whose time is 65,535.
private def latePacket : Packet :=
  { Packet.zero with len := 3, data := #v[0xff, 0xff, 0, 0, 0, 0, 0, 0, 0, 0] }

/-- One frame takes a client's clock out of range, one SET_TIME a controller's. -/
theorem clock_out_of_range :
    ¬ InRange (run (Client.clockStep fastClockRadio Client.idleApp)
      (Client.start fastClockRadio ⟨127, 1, 0, 1⟩ 1 16 (Client.powerOn 0))
      [.receive .zero]).radio ∧
    ¬ InRange (run (Ctl.clockStep fastClockRadio) (Ctl.start fastClockRadio 0 (fun _ ↦ 0xff) 0)
      [.setTime latePacket]).dev.radio := by
  decide +kernel

end Libradio
