import Libradio.Lib.Questions

/-!
# The time of day as a pair

`radio.tens_of_minutes` and `radio.ms_ticks` as `clocktick` counts them
(`src/lib/clock.c:80-89`): the clock runs once the tens are known, and carries into them after
sixty thousand ticks.
-/

namespace Libradio

/-- The tens of minutes and the ticks since. -/
structure Time where
  tens : UInt8
  ms : UInt16
  deriving DecidableEq, Repr

namespace Time

/-- The clock runs. -/
def Runs (t : Time) : Prop := t.tens ≠ 0xff

instance (t : Time) : Decidable t.Runs := inferInstanceAs (Decidable (_ ≠ _))

/-- The next tick of a clock that runs carries into the tens. -/
def Carries (period : UInt8) (t : Time) : Prop := t.Runs ∧ 60000 ≤ t.ms + period.toUInt16

instance (period : UInt8) (t : Time) : Decidable (Carries period t) :=
  inferInstanceAs (Decidable (_ ∧ _))

/-- One tick. -/
def tick (period : UInt8) (t : Time) : Time :=
  if Carries period t then ⟨t.tens + 1, 0⟩
  else if t.Runs then ⟨t.tens, t.ms + period.toUInt16⟩
  else t

/-- The time some ticks later. -/
def after (period : UInt8) : Nat → Time → Time
  | 0, t => t
  | n + 1, t => after period n (tick period t)

/-- None of the next ticks carries. -/
def Steady (period : UInt8) : Nat → Time → Prop
  | 0, _ => True
  | n + 1, t => ¬ Carries period t ∧ Steady period n (tick period t)

instance Steady.decidable (period : UInt8) : ∀ (n : Nat) (t : Time), Decidable (Steady period n t)
  | 0, _ => .isTrue trivial
  | n + 1, t =>
    have := Steady.decidable period n (tick period t)
    inferInstanceAs (Decidable (_ ∧ _))

/-- A tick that does not carry leaves the tens alone. -/
theorem tens_tick_of_not_carries {period : UInt8} {t : Time} (h : ¬ Carries period t) :
    (tick period t).tens = t.tens := by
  unfold tick
  rw [if_neg h]
  split <;> rfl

/-- Without a carry the tens stay. -/
theorem tens_after_of_steady {period : UInt8} {n : Nat} {t : Time} (h : Steady period n t) :
    (after period n t).tens = t.tens := by
  induction n generalizing t with
  | zero => rfl
  | succ n ih => exact (ih h.2).trans (tens_tick_of_not_carries h.1)

/-- A clock that does not run does not start by itself. -/
theorem tens_after_of_stopped {period : UInt8} {n : Nat} {t : Time} (h : t.tens = 0xff) :
    (after period n t).tens = 0xff := by
  induction n generalizing t with
  | zero => exact h
  | succ n ih =>
    have hruns : ¬ t.Runs := fun hc ↦ hc h
    have hstopped : tick period t = t := by
      unfold tick
      rw [if_neg fun hc : Carries period t ↦ hruns hc.1, if_neg hruns]
    rw [after, hstopped]
    exact ih h

/-- Clock interrupts add up. -/
theorem after_add (period : UInt8) (m n : Nat) (t : Time) :
    after period (m + n) t = after period n (after period m t) := by
  induction m generalizing t with
  | zero => rw [Nat.zero_add, after]
  | succ m ih => rw [Nat.succ_add, after, after, ih]

private theorem steady_add (period : UInt8) (m n : Nat) (t : Time) :
    Steady period (m + n) t ↔ Steady period m t ∧ Steady period n (after period m t) := by
  induction m generalizing t with
  | zero => simp [Steady, after]
  | succ m ih => rw [Nat.succ_add, Steady, Steady, ih, after, and_assoc]

/-- The first of some ticks that do not carry. -/
theorem Steady.of_le {period : UInt8} {m n : Nat} {t : Time} (h : Steady period n t)
    (hle : m ≤ n) : Steady period m t := by
  obtain ⟨k, rfl⟩ := Nat.exists_eq_add_of_le hle
  exact ((steady_add period m k t).mp h).1

/-- Two clocks of which both run or neither count the same ticks as long as nothing carries. -/
theorem ms_after_of_alike {period : UInt8} {n : Nat} {t u : Time} (hms : t.ms = u.ms)
    (hruns : t.Runs ↔ u.Runs) (h : Steady period n u) :
    (after period n t).ms = (after period n u).ms := by
  induction n generalizing t u with
  | zero => exact hms
  | succ n ih =>
    have hu : ¬ Carries period u := h.1
    have ht : ¬ Carries period t := fun hc ↦ hu ⟨hruns.mp hc.1, hms ▸ hc.2⟩
    refine ih ?_ ?_ h.2
    · unfold tick
      rw [if_neg ht, if_neg hu]
      by_cases hr : u.Runs
      · rw [if_pos hr, if_pos (hruns.mpr hr), hms]
      · rw [if_neg hr, if_neg fun hc ↦ hr (hruns.mp hc), hms]
    · unfold Runs
      rw [tens_tick_of_not_carries ht, tens_tick_of_not_carries hu]
      exact hruns

end Time

/-- The time of a radio's clock. -/
def Radio.time (r : Radio) : Time := ⟨r.tensOfMinutes, r.msTicks⟩

/-- The clock and its period. -/
structure Dial where
  time : Time
  period : UInt8

/-- The dial of a radio. -/
def Radio.dial (r : Radio) : Dial := ⟨r.time, r.period⟩

/-- A dial some ticks later. -/
def Dial.after (n : Nat) (d : Dial) : Dial := ⟨Time.after d.period n d.time, d.period⟩

/-- A clock interrupt is a tick. -/
theorem dial_clocktick (r : Radio) : (clocktick r).dial = r.dial.after 1 := by
  have hled : (clocktickLed r).dial = r.dial := by
    unfold clocktickLed
    dsimp only
    split <;> rfl
  have hmain (r : Radio) : (clocktickMain r).dial = r.dial := by
    unfold clocktickMain
    split
    · split <;> rfl
    · rfl
  have hsecond (r : Radio) : (clocktickSecond r).dial = r.dial := by
    unfold clocktickSecond
    dsimp only
    split <;> rfl
  have htime (r : Radio) : (clocktickTime r).dial = r.dial.after 1 := by
    have hdial : r.dial.after 1 = ⟨Time.tick r.period r.time, r.period⟩ := rfl
    rw [hdial]
    unfold clocktickTime Time.tick
    by_cases hruns : r.tensOfMinutes ≠ 0xff
    · rw [if_pos hruns]
      dsimp only
      by_cases hcarry : r.msTicks + r.period.toUInt16 ≥ 60000
      · rw [if_pos hcarry, if_pos ⟨hruns, hcarry⟩]
        rfl
      · rw [if_neg hcarry, if_neg fun hc ↦ hcarry hc.2, if_pos (show r.time.Runs from hruns)]
        rfl
    · rw [if_neg hruns, if_neg fun hc ↦ hruns hc.1, if_neg (show ¬ r.time.Runs from hruns)]
      rfl
  rw [clocktick, hsecond, hmain, htime, hled]

/-- The dial after clock interrupts. -/
theorem dial_clockticks (n : Nat) (r : Radio) : (clockticks n r).dial = r.dial.after n := by
  induction n generalizing r with
  | zero => rfl
  | succ n ih =>
    rw [clockticks, ih, dial_clocktick]
    rfl

section Questions

variable {σ : Type}

/-- Questions to the radio do not touch the clock. -/
theorem Asked.dial {R : σ → σ → Prop} {d d' : Dev σ} (h : Asked R d d') :
    d'.radio.dial = d.radio.dial := by
  have hdial := congrArg Radio.dial h.radio
  exact hdial

/-- Asking the radio leaves the tens of minutes alone. -/
theorem Asked.tensOfMinutes {R : σ → σ → Prop} {d d' : Dev σ} (h : Asked R d d') :
    d'.radio.tensOfMinutes = d.radio.tensOfMinutes :=
  congrArg (fun t ↦ t.time.tens) h.dial

/-- Powering up leaves the dial alone. -/
theorem dial_libradioPowerUp (b : Board σ) (d : Dev σ) :
    (libradioPowerUp b d).1.radio.dial = d.radio.dial := by
  have herror (r : Radio) : (libradioSetState LIBRADIO_STATE_ERROR r).dial = r.dial := by
    unfold libradioSetState
    split <;> rfl
  cases poweredUp_libradioPowerUp b.keeps_true d with
  | already active eq => rw [eq]
  | done asleep ok asked => exact asked.dial
  | failed asleep ok asked => exact asked.dial.trans (herror d.radio)

end Questions

end Libradio
