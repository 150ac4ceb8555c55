import Libradio.Client.Pass

/-!
# How long a client sleeps

Going to WARM or COLD asks for a delay of five or sixty minutes, but a delay that is running is
not restarted (`src/lib/clock.c:125-132`): the client wakes up when that one is over. After a
DEACTIVATE the `switch` of the same pass wakes it up at once.
-/

namespace Libradio
open Libradio.Base

variable {σ : Type}

/-- Neither an interrupt of the radio nor serial input. -/
def Client.Event.Quiet : Client.Event → Prop
  | tick => True
  | interrupt => False
  | pass _ serial => serial = false

/-- The clock interrupts among some events. -/
def ticksIn (events : List Client.Event) : Nat := events.count .tick

/-- The hundredths of a second that a sleep is to take, `src/lib/state.c:88`. -/
def sleepTime (newState : UInt8) : Nat :=
  if newState = LIBRADIO_STATE_WARM then 30000 else 360000

/-- Enough clock interrupts for a sleep. -/
def LongEnough (newState period : UInt8) (ticks : Nat) : Prop :=
  sleepTime newState ≤ ticks * period.toNat ∨ 65535 ≤ ticks

instance (newState period : UInt8) (ticks : Nat) : Decidable (LongEnough newState period ticks) :=
  inferInstanceAs (Decidable (_ ∨ _))

/-- Without an interrupt of the radio and without serial input, the client is not in LISTEN
before the time of the sleep is over. -/
def SleepsLong (b : Board σ) (app : App σ) (fuel : Nat) (newState : UInt8) (d : Dev σ) : Prop :=
  ∀ events : List Client.Event, (∀ e ∈ events, e.Quiet) →
    (run (Client.step b app fuel) d events).radio.state = LIBRADIO_STATE_LISTEN →
    LongEnough newState d.radio.slowPeriod (ticksIn events)

/-! ### The countdown -/

/-- The variables of the delay, and whether the radio has interrupted. -/
structure Countdown where
  mainTicks : UInt16
  tickCount : UInt16
  threadOk : Bool
  irqFired : UInt8
  deriving DecidableEq, Repr

/-- The delay of a radio. -/
def Radio.countdown (r : Radio) : Countdown := ⟨r.mainTicks, r.tickCount, r.threadOk, r.irqFired⟩

/-- A delay that is running is counted down, and started again when it is over. -/
def Countdown.tick (c : Countdown) : Countdown :=
  if c.mainTicks = 0 then c
  else if c.mainTicks = 1 then { c with mainTicks := c.tickCount, threadOk := true }
  else { c with mainTicks := c.mainTicks - 1 }

/-- That is what a clock interrupt does to it. -/
theorem countdown_clocktick (r : Radio) : (clocktick r).countdown = r.countdown.tick := by
  have hled : (clocktickLed r).countdown = r.countdown := by
    unfold clocktickLed
    dsimp only
    split <;> rfl
  have htime (r : Radio) : (clocktickTime r).countdown = r.countdown := by
    unfold clocktickTime
    split
    · dsimp only
      split <;> rfl
    · rfl
  have hsecond (r : Radio) : (clocktickSecond r).countdown = r.countdown := by
    unfold clocktickSecond
    dsimp only
    split <;> rfl
  have hmain (r : Radio) : (clocktickMain r).countdown = r.countdown.tick := by
    have hcount : r.countdown.mainTicks = r.mainTicks := rfl
    have hone : r.mainTicks - 1 = 0 ↔ r.mainTicks = 1 := by grind
    unfold clocktickMain Countdown.tick
    rw [hcount]
    simp only [hone, ne_eq, ite_not]
    split
    · rfl
    · split <;> rfl
  rw [clocktick, hsecond, hmain, htime, hled]

section Countdown

variable (b : Board σ) (app : App σ) (fuel : Nat)

/-- A clock interrupt leaves the state and the radio's interrupt alone and counts down. -/
theorem step_tick_countdown (d : Dev σ) :
    (Client.step b app fuel d .tick).radio.state = d.radio.state ∧
      (Client.step b app fuel d .tick).radio.countdown = d.radio.countdown.tick := by
  have htick : Client.step b app fuel d .tick = { d with radio := clocktick d.radio } := rfl
  have hstation := station_clocktick d.radio
  have hcount := countdown_clocktick d.radio
  rw [htick]
  dsimp only
  generalize clocktick d.radio = r at hstation hcount ⊢
  exact ⟨congrArg Station.state hstation, hcount⟩

/-- A client that sleeps and has not been woken sleeps on. -/
theorem step_pass_of_asleep {d : Dev σ} (hirq : d.radio.irqFired = 0)
    (hthread : d.radio.threadOk = false) (ticks : Nat) :
    Client.step b app fuel d (.pass ticks false) = d := by
  refine libradioRxloop_of_not_wakes b app fuel ticks ?_
  rintro (h | h | h)
  · exact h hirq
  · rw [hthread] at h
    cases h
  · cases h

/-- A client that sleeps goes to LISTEN when it is woken. -/
theorem step_pass_of_woken {d : Dev σ} (hasleep : IsAsleep d.radio.state)
    (hirq : d.radio.irqFired = 0) (hthread : d.radio.threadOk = true) :
    (Client.step b app fuel d (.pass 0 false)).radio.state = LIBRADIO_STATE_LISTEN := by
  have hpass : Client.step b app fuel d (.pass 0 false) = libradioRxloop b app fuel 0 false d := rfl
  have herror : d.radio.state ≠ LIBRADIO_STATE_ERROR := fun h ↦ by
    rw [h] at hasleep
    exact absurd hasleep (by decide)
  rw [hpass, libradioRxloop_of_wakes b app fuel 0 (.inr (.inl hthread))]
  unfold rxloopHandle rxloopSwitch
  rw [if_neg (not_not_intro hirq)]
  dsimp only
  rw [if_neg herror, if_pos hasleep]
  exact state_libradioSetState LIBRADIO_STATE_LISTEN _

/-- The client is in LISTEN only after its countdown. -/
theorem countdown_le_of_listen {events : List Client.Event} (hquiet : ∀ e ∈ events, e.Quiet)
    {d : Dev σ} (hasleep : IsAsleep d.radio.state) (hirq : d.radio.irqFired = 0)
    (hthread : d.radio.threadOk = false)
    (hlisten : (run (Client.step b app fuel) d events).radio.state = LIBRADIO_STATE_LISTEN) :
    d.radio.mainTicks ≠ 0 ∧ d.radio.mainTicks.toNat ≤ ticksIn events := by
  induction events generalizing d with
  | nil =>
    rw [run_nil] at hlisten
    rw [hlisten] at hasleep
    exact absurd hasleep (by decide)
  | cons e es ih =>
    have hrest : ∀ e ∈ es, e.Quiet := fun e he ↦ hquiet e (List.mem_cons_of_mem _ he)
    have hfirst : e.Quiet := hquiet e List.mem_cons_self
    rw [run_cons] at hlisten
    cases e with
    | tick =>
      obtain ⟨hstate, hcount⟩ := step_tick_countdown b app fuel d
      have hticks : ticksIn (.tick :: es) = ticksIn es + 1 := List.count_cons_self
      rw [hticks]
      generalize Client.step b app fuel d .tick = d' at hlisten hstate hcount
      unfold Countdown.tick at hcount
      have hmain : d.radio.countdown.mainTicks = d.radio.mainTicks := rfl
      rw [hmain] at hcount
      by_cases hone : d.radio.mainTicks = 1
      · refine ⟨by rw [hone]; decide, ?_⟩
        rw [hone]
        exact Nat.succ_le_succ (Nat.zero_le _)
      · rw [if_neg hone] at hcount
        have hasleep' : IsAsleep d'.radio.state := hstate ▸ hasleep
        by_cases hzero : d.radio.mainTicks = 0
        · rw [if_pos hzero] at hcount
          have hirq' := (congrArg Countdown.irqFired hcount).trans hirq
          have hthread' := (congrArg Countdown.threadOk hcount).trans hthread
          have hmain' := (congrArg Countdown.mainTicks hcount).trans hzero
          exact absurd hmain' (ih hrest hasleep' hirq' hthread' hlisten).1
        · rw [if_neg hzero] at hcount
          have hirq' := (congrArg Countdown.irqFired hcount).trans hirq
          have hthread' := (congrArg Countdown.threadOk hcount).trans hthread
          have hmain' : d'.radio.mainTicks = d.radio.mainTicks - 1 :=
            congrArg Countdown.mainTicks hcount
          have hle := (ih hrest hasleep' hirq' hthread' hlisten).2
          have hpos : 1 ≤ d.radio.mainTicks := by
            rw [UInt16.le_iff_toNat_le]
            have := mt UInt16.toNat_inj.mp hzero
            simp only [UInt16.reduceToNat] at this ⊢
            omega
          rw [hmain', UInt16.toNat_sub_of_le _ _ hpos] at hle
          simp only [UInt16.reduceToNat] at hle
          exact ⟨hzero, by omega⟩
    | interrupt => exact absurd hfirst id
    | pass ticks serial =>
      have hserial : serial = false := hfirst
      rw [hserial, step_pass_of_asleep b app fuel hirq hthread] at hlisten
      have hticks : ticksIn (.pass ticks serial :: es) = ticksIn es :=
        List.count_cons_of_ne fun h ↦ by cases h
      rw [hticks]
      exact ih hrest hasleep hirq hthread hlisten

/-- The countdown runs out in as many clock interrupts as it counts. -/
theorem threadOk_of_countdown (n : Nat) {d : Dev σ} (hcount : d.radio.mainTicks.toNat = n + 1) :
    (run (Client.step b app fuel) d (List.replicate (n + 1) .tick)).radio.state = d.radio.state ∧
      (run (Client.step b app fuel) d (List.replicate (n + 1) .tick)).radio.irqFired =
        d.radio.irqFired ∧
      (run (Client.step b app fuel) d (List.replicate (n + 1) .tick)).radio.threadOk = true := by
  induction n generalizing d with
  | zero =>
    obtain ⟨hstate, htick⟩ := step_tick_countdown b app fuel d
    have hone : d.radio.countdown.mainTicks = 1 := UInt16.toNat_inj.mp hcount
    have hzero : d.radio.countdown.mainTicks ≠ 0 := by rw [hone]; decide
    rw [Countdown.tick, if_neg hzero, if_pos hone] at htick
    rw [List.replicate_one, run_cons, run_nil]
    generalize Client.step b app fuel d .tick = d' at hstate htick ⊢
    exact ⟨hstate, congrArg Countdown.irqFired htick, congrArg Countdown.threadOk htick⟩
  | succ n ih =>
    obtain ⟨hstate, htick⟩ := step_tick_countdown b app fuel d
    have hmain : d.radio.countdown.mainTicks.toNat = n + 1 + 1 := hcount
    have hone : d.radio.countdown.mainTicks ≠ 1 := fun h ↦ by
      rw [h, UInt16.toNat_one] at hmain
      omega
    have hzero : d.radio.countdown.mainTicks ≠ 0 := fun h ↦ by
      rw [h, UInt16.toNat_zero] at hmain
      omega
    rw [Countdown.tick, if_neg hzero, if_neg hone] at htick
    rw [List.replicate_succ, run_cons]
    generalize Client.step b app fuel d .tick = d' at hstate htick ⊢
    have hpos : 1 ≤ d.radio.countdown.mainTicks := by
      rw [UInt16.le_iff_toNat_le, hmain, UInt16.toNat_one]
      omega
    have hcount' : d'.radio.mainTicks.toNat = n + 1 := by
      have hmain' : d'.radio.mainTicks = d.radio.countdown.mainTicks - 1 :=
        congrArg Countdown.mainTicks htick
      rw [hmain', UInt16.toNat_sub_of_le _ _ hpos, hmain]
      rfl
    obtain ⟨hs, hi, ht⟩ := ih hcount'
    exact ⟨hs.trans hstate, hi.trans (congrArg Countdown.irqFired htick), ht⟩

/-- More clock interrupts are long enough, too. -/
theorem LongEnough.mono {newState period : UInt8} {m n : Nat} (h : LongEnough newState period m)
    (hle : m ≤ n) : LongEnough newState period n := by
  rcases h with h | h
  · exact .inl (Nat.le_trans h (Nat.mul_le_mul_right _ hle))
  · exact .inr (Nat.le_trans h hle)

private theorem not_longEnough_zero (newState period : UInt8) : ¬ LongEnough newState period 0 := by
  unfold LongEnough sleepTime
  split <;> omega

/-- A sleep that is not woken already is long enough exactly if its countdown is. -/
theorem sleepsLong_iff {newState : UInt8} {d : Dev σ} (hasleep : IsAsleep d.radio.state)
    (hirq : d.radio.irqFired = 0) :
    SleepsLong b app fuel newState d ↔ d.radio.threadOk = false ∧ (d.radio.mainTicks = 0 ∨
      LongEnough newState d.radio.slowPeriod d.radio.mainTicks.toNat) := by
  constructor
  · intro h
    have hthread : d.radio.threadOk = false := by
      rw [← Bool.not_eq_true]
      intro hthread
      have hlisten := step_pass_of_woken b app fuel hasleep hirq hthread
      exact not_longEnough_zero _ _ (h [.pass 0 false] (by simp [Client.Event.Quiet]) hlisten)
    refine ⟨hthread, ?_⟩
    by_cases hzero : d.radio.mainTicks = 0
    · exact .inl hzero
    · right
      obtain ⟨n, hn⟩ : ∃ n, d.radio.mainTicks.toNat = n + 1 :=
        Nat.exists_eq_succ_of_ne_zero fun hc ↦ hzero (UInt16.toNat_inj.mp hc)
      obtain ⟨hstate, hirq', hthread'⟩ := threadOk_of_countdown b app fuel n hn
      have hlisten := step_pass_of_woken b app fuel (hstate ▸ hasleep) (hirq'.trans hirq) hthread'
      rw [← run_concat (Client.step b app fuel)] at hlisten
      have hticks : ticksIn (List.replicate (n + 1) .tick ++ [.pass 0 false]) = n + 1 := by
        rw [ticksIn, List.count_append, List.count_replicate_self,
          List.count_cons_of_ne fun h ↦ by cases h]
        rfl
      have hlong := h _ (fun e he ↦ ?_) hlisten
      · rwa [hticks, ← hn] at hlong
      · rcases List.mem_append.mp he with he | he
        · rw [List.eq_of_mem_replicate he]
          trivial
        · rw [List.mem_singleton.mp he]
          rfl
  · rintro ⟨hthread, hlong⟩ events hquiet hlisten
    obtain ⟨hne, hle⟩ := countdown_le_of_listen b app fuel hquiet hasleep hirq hthread hlisten
    exact (hlong.resolve_left hne).mono hle

end Countdown

/-! ### Falling asleep -/

/-- The clock interrupts until a client that goes to `newState` wakes up: those of the delay
that is running, or of the new one. -/
def sleepTicks (newState : UInt8) (r : Radio) : UInt16 :=
  if r.mainTicks = 0 then UInt16.ofNat (min (sleepTime newState / r.slowPeriod.toNat) 65535)
  else r.mainTicks

/-- No wake-up is waiting, and the countdown never ends or is long enough. -/
def LastsLong (newState : UInt8) (r : Radio) : Prop :=
  r.threadOk = false ∧
    (sleepTicks newState r = 0 ∨ LongEnough newState r.slowPeriod (sleepTicks newState r).toNat)

instance (newState : UInt8) (r : Radio) : Decidable (LastsLong newState r) :=
  inferInstanceAs (Decidable (_ ∧ _))

/-- What going to sleep does to the countdown. -/
theorem countdown_libradioSetState_sleep {newState : UInt8} {r : Radio}
    (hsleep : newState = LIBRADIO_STATE_WARM ∨ newState = LIBRADIO_STATE_COLD)
    (hne : r.state ≠ newState) :
    (libradioSetState newState r).countdown.mainTicks = sleepTicks newState r ∧
      (libradioSetState newState r).threadOk = r.threadOk ∧
      (libradioSetState newState r).irqFired = r.irqFired ∧
      (libradioSetState newState r).slowPeriod = r.slowPeriod := by
  unfold libradioSetState
  rw [if_neg fun h ↦ hne h.2]
  dsimp only
  rw [if_pos hsleep.symm]
  exact ⟨rfl, rfl, rfl, rfl⟩

/-- A client that goes to sleep sleeps long enough exactly if its countdown lasts. -/
theorem sleepsLong_libradioSetState (b : Board σ) (app : App σ) (fuel : Nat) {newState : UInt8}
    {d : Dev σ} (hsleep : newState = LIBRADIO_STATE_WARM ∨ newState = LIBRADIO_STATE_COLD)
    (hne : d.radio.state ≠ newState) (hirq : d.radio.irqFired = 0) :
    SleepsLong b app fuel newState { d with radio := libradioSetState newState d.radio } ↔
      LastsLong newState d.radio := by
  obtain ⟨hmain, hthread, hirq', hslow⟩ := countdown_libradioSetState_sleep hsleep hne
  have hasleep : IsAsleep (libradioSetState newState d.radio).state := by
    rw [state_libradioSetState]
    exact .inr hsleep.symm
  generalize libradioSetState newState d.radio = r at hmain hthread hirq' hslow hasleep ⊢
  rw [sleepsLong_iff b app fuel hasleep (hirq'.trans hirq), LastsLong]
  dsimp only
  rw [hthread, hslow, show r.mainTicks = _ from hmain]

/-- The states in which the `switch` goes to WARM. -/
def FallsAsleep (r : Radio) : Prop :=
  r.state = LIBRADIO_STATE_ERROR ∨ (r.state ≠ LIBRADIO_STATE_ERROR ∧ ¬ IsAsleep r.state ∧
    r.state ≠ LIBRADIO_STATE_LISTEN ∧ r.sawRx = false ∧ r.timeout = 1)

instance (r : Radio) : Decidable (FallsAsleep r) := inferInstanceAs (Decidable (_ ∨ _))

/-- The next pass executes a deactivation. -/
def IsDeactivated (b : Board σ) (d : Dev σ) : Prop :=
  ∃ p ∈ Client.accepted b d, IsDeactivation d.radio p

instance (b : Board σ) (d : Dev σ) : Decidable (IsDeactivated b d) :=
  inferInstanceAs (Decidable (∃ p ∈ Client.accepted b d, _))

/-- The `switch` puts a client to sleep for as long as its countdown lasts. -/
theorem sleepsLong_rxloopSwitch (b : Board σ) (app : App σ) (fuel : Nat) {d : Dev σ}
    (hirq : d.radio.irqFired = 0) (h : FallsAsleep d.radio) :
    SleepsLong b app fuel LIBRADIO_STATE_WARM { d with radio := rxloopSwitch d.radio } ↔
      LastsLong LIBRADIO_STATE_WARM d.radio := by
  unfold rxloopSwitch
  rcases h with herror | ⟨herror, hasleep, hlisten, hsaw, htimeout⟩
  · have hne : d.radio.state ≠ LIBRADIO_STATE_WARM := by rw [herror]; decide
    rw [if_pos herror]
    exact sleepsLong_libradioSetState b app fuel (.inl rfl) hne hirq
  · have hne : d.radio.state ≠ LIBRADIO_STATE_WARM := fun hc ↦ hasleep (.inr (.inr hc))
    have hover : d.radio.timeout - 1 = 0 := by rw [htimeout]; rfl
    have hstill : ¬ d.radio.sawRx = true := by rw [hsaw]; exact Bool.false_ne_true
    rw [if_neg herror, if_neg hasleep, if_neg hlisten]
    unfold rxloopActive
    rw [if_neg hstill]
    dsimp only
    rw [if_pos hover]
    exact sleepsLong_libradioSetState b app fuel
      (d := { d with radio := { d.radio with timeout := d.radio.timeout - 1 } }) (.inl rfl) hne hirq

/-- A deactivated client is in LISTEN after the same pass. -/
theorem state_of_isDeactivated {b : Board σ} (app : App σ) (fuel ticks : Nat) {serial : Bool}
    {d : Dev σ} (hwakes : Wakes serial d.radio) (h : IsDeactivated b d) :
    (libradioRxloop b app fuel ticks serial d).radio.state = LIBRADIO_STATE_LISTEN := by
  obtain ⟨p, hp, hdeact⟩ := h
  obtain ⟨e, hstation, hcommand⟩ := rxloopHandle_of_accepted app fuel ticks hp
  rw [← isDeactivation_station hstation] at hdeact
  have hstate : (rxloopHandle b app fuel ticks d).radio.state = LIBRADIO_STATE_WARM := by
    refine (congrArg Station.state hcommand).trans ?_
    cases executed_libradioCommand b app fuel p e with
    | deactivated deact eq =>
      rw [eq]
      exact state_libradioSetState LIBRADIO_STATE_WARM _
    | nothing act deact request eq => exact absurd hdeact deact
    | activated act eq => exact absurd (hdeact.1.symm.trans act.1) (by decide)
    | setTime active cmd len eq => exact absurd (hdeact.1.symm.trans cmd) (by decide)
    | setDate active cmd len eq => exact absurd (hdeact.1.symm.trans cmd) (by decide)
    | silent active cmd => exact absurd (hdeact.1.symm.trans cmd) (by decide)
    | status active cmd => exact absurd (hdeact.1.symm.trans cmd) (by decide)
    | readEeprom buffer addr active cmd => exact absurd (hdeact.1.symm.trans cmd) (by decide)
    | writeEeprom eeprom active cmd => exact absurd (hdeact.1.symm.trans cmd) (by decide)
    | operate active cmd =>
      rw [hdeact.1] at cmd
      exact absurd cmd (by decide)
  have herror : LIBRADIO_STATE_WARM ≠ LIBRADIO_STATE_ERROR := by decide
  rw [libradioRxloop_of_wakes b app fuel ticks hwakes]
  generalize rxloopHandle b app fuel ticks d = f at hstate ⊢
  unfold rxloopSwitch
  dsimp only
  rw [if_neg (hstate ▸ herror), if_pos (.inr (.inr hstate))]
  exact state_libradioSetState LIBRADIO_STATE_LISTEN _

/-- A client that is put to sleep, by `libradio_set_state` from outside a pass or by a pass that
executes a deactivation or whose `switch` goes to WARM, sleeps long enough exactly if it is not
by a deactivation, no wake-up is waiting, and the delay that is running, or the new one if none
is, is long enough. -/
theorem sleep_time_iff (b : Board σ) (app : App σ) (fuel : Nat) :
    (∀ (newState : UInt8) (d : Dev σ),
      newState = LIBRADIO_STATE_WARM ∨ newState = LIBRADIO_STATE_COLD →
      d.radio.state ≠ newState → d.radio.irqFired = 0 →
      (SleepsLong b app fuel newState { d with radio := libradioSetState newState d.radio } ↔
        LastsLong newState d.radio)) ∧
    ∀ (ticks : Nat) (serial : Bool) (d : Dev σ), Wakes serial d.radio →
      IsDeactivated b d ∨ FallsAsleep (rxloopHandle b app fuel ticks d).radio →
      (SleepsLong b app fuel LIBRADIO_STATE_WARM (Client.step b app fuel d (.pass ticks serial)) ↔
        ¬ IsDeactivated b d ∧
          LastsLong LIBRADIO_STATE_WARM (rxloopHandle b app fuel ticks d).radio) := by
  refine ⟨fun newState d hsleep hne hirq ↦ sleepsLong_libradioSetState b app fuel hsleep hne hirq,
    fun ticks serial d hwakes hsleep ↦ ?_⟩
  have hpass : Client.step b app fuel d (.pass ticks serial) =
      libradioRxloop b app fuel ticks serial d := rfl
  rw [hpass]
  by_cases hdeact : IsDeactivated b d
  · have hlisten := state_of_isDeactivated app fuel ticks hwakes hdeact
    refine iff_of_false (fun h ↦ ?_) fun h ↦ h.1 hdeact
    exact not_longEnough_zero _ _ (h [] (by simp) hlisten)
  · have hfalls := hsleep.resolve_left hdeact
    have hirq := irqFired_rxloopHandle b app fuel ticks d
    rw [and_iff_right hdeact, libradioRxloop_of_wakes b app fuel ticks hwakes]
    exact sleepsLong_rxloopSwitch b app fuel hirq hfalls

/-- A client without a delay of its own sleeps its five minutes. -/
theorem sleep_time_fresh :
    SleepsLong (.scripted fun _ _ ↦ 16) Client.idleApp 0 LIBRADIO_STATE_WARM
      { Client.powerOn 0 with
        radio := libradioSetState LIBRADIO_STATE_WARM { Radio.zero with slowPeriod := 16 } } :=
  ((sleep_time_iff (.scripted fun _ _ ↦ 16) Client.idleApp 0).1 LIBRADIO_STATE_WARM
    { Client.powerOn 0 with radio := { Radio.zero with slowPeriod := 16 } } (.inl rfl)
    (by decide) rfl).mpr (by decide)

private def sleeper : Client.Identity := ⟨127, 1, 0, 1⟩

private def goToSleep : Packet := { Packet.zero with cmd := RADIO_CMD_DEACTIVATE }

/-- A client that is activated and then deactivated does not sleep at all. -/
theorem deactivated_awake :
    let b := Client.feed [Client.activation sleeper 0 5, goToSleep] true
    let d := run (Client.step b Client.idleApp 0)
      (Client.start b sleeper 1 16 (Client.powerOn 0)) (Client.hear ++ [.interrupt])
    IsDeactivated b d ∧ ¬ SleepsLong b Client.idleApp 0 LIBRADIO_STATE_WARM
      (Client.step b Client.idleApp 0 d (.pass 0 false)) := by
  refine ⟨by decide +kernel, fun h ↦ ?_⟩
  exact absurd (h [] (by simp) (by decide +kernel)) (not_longEnough_zero _ _)

end Libradio
