import Libradio.Base.Carry
import Libradio.Base.Run
import Libradio.Lib.State

/-!
# The seconds counter

`src/lib/clock.c:99-106,161-168`: every clock interrupt adds its period to `timer_count`, and
one second is taken out where there is one. A slow clock may bring in more than that.
-/

namespace Libradio
open Libradio.Base

/-- `libradio_elapsed_second`, `src/lib/clock.c:161-168`. -/
def libradioElapsedSecond (r : Radio) : Radio × Bool :=
  ({ r with elapsedSecond := false }, r.elapsedSecond)

/-- A device with what has happened to its seconds counter: how often a second was raised and
the sum of the periods of all ticks. -/
structure Seconds where
  radio : Radio
  raised : Nat
  total : Nat

namespace Seconds

/-- What the seconds counter can see: a clock interrupt, a change of the rate, and a main loop
that asks for the second. -/
inductive Event
  | tick
  | rate (hiFlag : Bool)
  | ask
  deriving DecidableEq, Repr

/-- The clock interrupt raises a second, whether or not one is waiting to be asked for. -/
def raises (r : Radio) : Bool := (clocktick (libradioElapsedSecond r).1).elapsedSecond

/-- One event of the clock and of the application that asks for the seconds. -/
def step (s : Seconds) : Event → Seconds
  | .tick =>
    ⟨clocktick s.radio, s.raised + (raises s.radio).toNat, s.total + s.radio.period.toNat⟩
  | .rate hiFlag => { s with radio := libradioPowerMode hiFlag s.radio }
  | .ask => { s with radio := (libradioElapsedSecond s.radio).1 }

/-- A clock that has not ticked yet: `timer_count` is static. -/
def start (fast slow : UInt8) (r : Radio) : Seconds :=
  ⟨libradioSetClock fast slow { r with timerCount := 0 }, 0, 0⟩

/-- The counter of seconds with its carries. -/
def tally (s : Seconds) : Tally := ⟨s.radio.timerCount.toNat, s.raised, s.total⟩

/-- The counter is below a second, and as many seconds were raised as have passed. -/
def Counts (s : Seconds) : Prop := s.radio.timerCount < 100 ∧ s.raised = s.total / 100

instance (s : Seconds) : Decidable s.Counts := inferInstanceAs (Decidable (_ ∧ _))

/-- The next tick does not bring in a second beyond the one that it can raise. -/
def OneSecond (s : Seconds) (e : Event) : Prop :=
  e = .tick → s.total % 100 + s.radio.period.toNat < 200

instance (s : Seconds) (e : Event) : Decidable (s.OneSecond e) :=
  inferInstanceAs (Decidable (_ → _))

-- The variables that the seconds part of a clock interrupt looks at.
private def dialOf (r : Radio) : UInt16 × Bool × UInt8 := (r.timerCount, r.elapsedSecond, r.period)

-- The other parts leave them alone.
private theorem dialOf_before (r : Radio) :
    dialOf (clocktickMain (clocktickTime (clocktickLed r))) = dialOf r := by
  have hled (r : Radio) : dialOf (clocktickLed r) = dialOf r := by
    simp only [clocktickLed]
    split <;> rfl
  have htime (r : Radio) : dialOf (clocktickTime r) = dialOf r := by
    simp only [clocktickTime]
    split
    · split <;> rfl
    · rfl
  have hmain (r : Radio) : dialOf (clocktickMain r) = dialOf r := by
    simp only [clocktickMain]
    split
    · split <;> rfl
    · rfl
  rw [hmain, htime, hled]

private theorem timerCount_clocktick (r : Radio) :
    (clocktick r).timerCount =
      if r.timerCount + r.period.toUInt16 ≥ 100 then r.timerCount + r.period.toUInt16 - 100
      else r.timerCount + r.period.toUInt16 := by
  have h := dialOf_before r
  simp only [dialOf, Prod.mk.injEq] at h
  simp only [clocktick, clocktickSecond, h]
  split <;> rfl

private theorem raises_iff (r : Radio) :
    raises r = true ↔ r.timerCount + r.period.toUInt16 ≥ 100 := by
  have h := dialOf_before (libradioElapsedSecond r).1
  simp only [dialOf, Prod.mk.injEq, libradioElapsedSecond] at h
  simp only [raises, clocktick, clocktickSecond, libradioElapsedSecond, h]
  split
  · next hge => simp [hge]
  · next hlt => simp [hlt]

/-- A change of the rate is not counted. -/
@[simp]
theorem tally_rate (s : Seconds) (hiFlag : Bool) : (s.step (.rate hiFlag)).tally = s.tally := by
  cases hiFlag <;> rfl

/-- A question is not counted. -/
@[simp]
theorem tally_ask (s : Seconds) : (s.step .ask).tally = s.tally := rfl

/-- A tick adds its period to the tally, with one carry at a second. -/
theorem tally_tick {s : Seconds} (h : s.tally.left < 100) :
    (s.step .tick).tally = s.tally.add 100 s.radio.period.toNat := by
  have hlt := s.radio.period.toNat_lt
  simp only [tally] at h
  have hsum : (s.radio.timerCount + s.radio.period.toUInt16).toNat =
      s.radio.timerCount.toNat + s.radio.period.toNat := by
    rw [UInt16.toNat_add, UInt8.toNat_toUInt16]
    omega
  have hge : s.radio.timerCount + s.radio.period.toUInt16 ≥ 100 ↔
      100 ≤ s.radio.timerCount.toNat + s.radio.period.toNat := by
    rw [ge_iff_le, UInt16.le_iff_toNat_le, hsum]
    simp
  by_cases hc : 100 ≤ s.radio.timerCount.toNat + s.radio.period.toNat
  · have hr : raises s.radio = true := (raises_iff s.radio).mpr (hge.mpr hc)
    rw [Tally.add_of_le hc]
    simp only [tally, step, timerCount_clocktick, hr, if_pos (hge.mpr hc)]
    rw [UInt16.toNat_sub_of_le _ _ (hge.mpr hc), hsum]
    rfl
  · have hr : raises s.radio = false := by
      rw [Bool.eq_false_iff]
      exact fun hr ↦ hc (hge.mp ((raises_iff s.radio).mp hr))
    rw [Tally.add_of_lt (Nat.not_le.mp hc)]
    simp only [tally, step, timerCount_clocktick, hr, if_neg fun h ↦ hc (hge.mp h), hsum]
    rfl

private theorem counts_iff_divides (s : Seconds) : s.Counts ↔ s.tally.Divides 100 := by
  simp only [Counts, Tally.Divides, tally, UInt16.lt_iff_toNat_lt, UInt16.reduceToNat]

/-- The counter loses nothing and counts the seconds so far. -/
structure Sound (s : Seconds) : Prop where
  counts : s.Counts
  conserves : s.tally.Conserves 100

private theorem Sound.of_tally_eq {s s' : Seconds} (h : s.Sound) (heq : s'.tally = s.tally) :
    s'.Sound where
  counts := by
    rw [counts_iff_divides, heq]
    exact (counts_iff_divides s).mp h.counts
  conserves := heq ▸ h.conserves

/-- One event keeps the count exactly when it brings in no second too many. -/
theorem Sound.counts_step_iff {s : Seconds} (h : s.Sound) (e : Event) :
    (s.step e).Counts ↔ s.OneSecond e := by
  have hd := (counts_iff_divides s).mp h.counts
  cases e with
  | tick =>
    rw [counts_iff_divides, tally_tick hd.1, Tally.divides_add_iff _ hd h.conserves]
    simp [OneSecond, tally]
  | rate hiFlag =>
    simp only [OneSecond, reduceCtorEq, false_implies, iff_true]
    exact (h.of_tally_eq (tally_rate s hiFlag)).counts
  | ask =>
    simp only [OneSecond, reduceCtorEq, false_implies, iff_true]
    exact (h.of_tally_eq (tally_ask s)).counts

/-- One event keeps the count. -/
theorem Sound.step {s : Seconds} (h : s.Sound) {e : Event} (hg : s.OneSecond e) :
    (s.step e).Sound where
  counts := (h.counts_step_iff e).mpr hg
  conserves := by
    cases e with
    | tick =>
      rw [tally_tick ((counts_iff_divides s).mp h.counts).1]
      exact h.conserves.add _
    | rate hiFlag =>
      rw [tally_rate]
      exact h.conserves
    | ask => exact h.conserves

private theorem sound_start (fast slow : UInt8) (r : Radio) : (start fast slow r).Sound where
  counts := ⟨show (0 : UInt16) < 100 by decide, by simp [start]⟩
  conserves := rfl

/-- In every run of clock interrupts with any changes of the rate, the counter stays below a
second and the seconds raised are the ticks' periods divided by a hundred, exactly as long as
no tick brings in more than the one second that it can raise. -/
theorem counts_iff_oneSecond (fast slow : UInt8) (r : Radio) (es : List Event) :
    (∀ pre, pre <+: es → (run step (start fast slow r) pre).Counts) ↔
      Along step OneSecond (start fast slow r) es := by
  rw [forall_prefix_iff, and_iff_right (sound_start fast slow r).counts]
  apply along_iff_of_inv (I := Sound)
  · intro s e hs hg
    exact hs.step hg
  · intro s e hs
    exact hs.counts_step_iff e
  · exact sound_start fast slow r

/-- The periods of both rates, and the one selected, are at most a second. -/
structure Short (s : Seconds) : Prop where
  fast : s.radio.fastPeriod.toNat ≤ 100
  slow : s.radio.slowPeriod.toNat ≤ 100
  period : s.radio.period.toNat ≤ 100

/-- One event keeps the count short. -/
theorem Short.step {s : Seconds} (h : s.Short) (e : Event) : (s.step e).Short := by
  cases e with
  | tick =>
    have hsame := untimed_clocktick s.radio
    have hfast := congrArg Radio.fastPeriod hsame
    have hslow := congrArg Radio.slowPeriod hsame
    have hperiod := congrArg Radio.period hsame
    simp only [Radio.untimed] at hfast hslow hperiod
    constructor
    · simpa only [Seconds.step, hfast] using h.fast
    · simpa only [Seconds.step, hslow] using h.slow
    · simpa only [Seconds.step, hperiod] using h.period
  | rate hiFlag =>
    cases hiFlag with
    | false => exact ⟨h.fast, h.slow, h.slow⟩
    | true => exact ⟨h.fast, h.slow, h.fast⟩
  | ask => exact ⟨h.fast, h.slow, h.period⟩

/-- A clock whose periods are at most a second never brings in a second too many. -/
theorem oneSecond_of_short (fast slow : UInt8) (r : Radio) (es : List Event)
    (hfast : fast.toNat ≤ 100) (hslow : slow.toNat ≤ 100) :
    Along step OneSecond (start fast slow r) es := by
  apply along_of_inv (I := Short) (G := fun _ _ ↦ True)
  · intro s e h _
    exact h.step e
  · intro s e h _ _
    exact Tally.enough_of_le (t := s.tally) (by decide) h.period
  · exact ⟨hfast, hslow, hfast⟩
  · exact (along_iff_split _ _ _ _).mpr fun _ _ _ _ ↦ trivial

/-- Two slow ticks with the clock of `src/examples/oiltank.c:118` are 3.2 seconds, of which two
are raised. -/
theorem not_counts_oiltank :
    ¬∀ pre, pre <+: [.rate false, .tick, .tick] →
      (run step (start 10 160 Radio.zero) pre).Counts := by
  intro h
  have hlast := h _ (List.prefix_refl _)
  revert hlast
  decide

end Seconds

end Libradio
