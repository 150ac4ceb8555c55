import Libradio.Clock.Time

/-!
# What the clock counts

Sixty thousand ticks are ten minutes (`src/README.md:182-199`). `clocktick` carries by setting
`ms_ticks` to zero (`src/lib/clock.c:81-86`), so a carry keeps the count only where the
period lands on sixty thousand.
-/

namespace Libradio

namespace Time

/-- The ticks since midnight. -/
def total (t : Time) : Nat := 60000 * t.tens.toNat + t.ms.toNat

/-- From one interrupt to the next, a clock that runs gains the period and one that is parked
stays as it is; the tens do not wrap around. -/
structure Conserves (period : UInt8) (t u : Time) : Prop where
  gains : t.Runs → u.total = t.total + period.toNat
  parks : ¬ t.Runs → u = t
  rises : t.tens ≤ u.tens

/-- Nothing is lost in the next `n` ticks: there is no carry, or the first one is met exactly
and it parks the clock, is the only one, or is followed by others that are met exactly. -/
def Lossless (period : UInt8) (n : Nat) (t : Time) : Prop :=
  t.ms.toNat + n * period.toNat < 60000 ∨
    period.toNat ∣ 60000 - t.ms.toNat ∧
      (t.tens = 254 ∨ t.ms.toNat + n * period.toNat < 120000 ∨ period.toNat ∣ 60000)

instance (period : UInt8) (n : Nat) (t : Time) : Decidable (Lossless period n t) :=
  inferInstanceAs (Decidable (_ ∨ _ ∧ _))

variable {period : UInt8} {t : Time}

/-- No sum of ticks and a period wraps around below the carry. -/
theorem toNat_ms_add (hms : t.ms < 60000) :
    (t.ms + period.toUInt16).toNat = t.ms.toNat + period.toNat := by
  have hlt := UInt16.lt_iff_toNat_lt.mp hms
  have hp := period.toNat_lt
  simp only [UInt16.reduceToNat] at hlt
  rw [UInt16.toNat_add, UInt8.toNat_toUInt16]
  omega

/-- A running clock carries when it comes to 60000. -/
theorem carries_iff (hms : t.ms < 60000) :
    Carries period t ↔ t.Runs ∧ 60000 ≤ t.ms.toNat + period.toNat := by
  rw [Carries, UInt16.le_iff_toNat_le, toNat_ms_add hms]
  rfl

/-- The tens of a clock that runs have room for a carry. -/
theorem toNat_tens_succ (hruns : t.Runs) : (t.tens + 1).toNat = t.tens.toNat + 1 := by
  have hne : t.tens.toNat ≠ 255 := fun h ↦ hruns (UInt8.toNat_inj.mp h)
  have hlt := t.tens.toNat_lt
  rw [UInt8.toNat_add]
  simp only [UInt8.reduceToNat]
  omega

private theorem tick_of_carries (h : Carries period t) : tick period t = ⟨t.tens + 1, 0⟩ := by
  rw [tick, if_pos h]

/-- Without a carry the ticks are raised. -/
theorem tick_of_not_carries (hruns : t.Runs) (h : ¬ Carries period t) :
    tick period t = ⟨t.tens, t.ms + period.toUInt16⟩ := by
  rw [tick, if_neg h, if_pos hruns]

/-- A parked clock stays as it is. -/
theorem tick_of_parked (h : ¬ t.Runs) : tick period t = t := by
  rw [tick, if_neg fun hc ↦ h hc.1, if_neg h]

private theorem after_of_parked (h : ¬ t.Runs) (n : Nat) : after period n t = t := by
  induction n with
  | zero => rfl
  | succ n ih => rw [after, tick_of_parked h, ih]

/-- The tens never wrap around, whatever the clock loses. -/
theorem tens_le_tick : t.tens ≤ (tick period t).tens := by
  by_cases hcarry : Carries period t
  · rw [tick_of_carries hcarry, UInt8.le_iff_toNat_le]
    show t.tens.toNat ≤ (t.tens + 1).toNat
    rw [toNat_tens_succ hcarry.1]
    omega
  · rw [tens_tick_of_not_carries hcarry]
    exact UInt8.le_refl _

/-- A tick keeps the ticks of the clock below the carry. -/
theorem ms_tick_lt (hms : t.ms < 60000) : (tick period t).ms < 60000 := by
  by_cases hruns : t.Runs
  · by_cases hcarry : Carries period t
    · rw [tick_of_carries hcarry]
      show (0 : UInt16) < 60000
      decide
    · rw [tick_of_not_carries hruns hcarry]
      rw [carries_iff hms, not_and, Nat.not_le] at hcarry
      show t.ms + period.toUInt16 < 60000
      rw [UInt16.lt_iff_toNat_lt, toNat_ms_add hms]
      exact hcarry hruns
  · rw [tick_of_parked hruns]
    exact hms

/-- One tick of a clock that runs gains the period exactly when it does not pass the carry. -/
theorem conserves_tick_iff (hms : t.ms < 60000) (hruns : t.Runs) :
    Conserves period t (tick period t) ↔ t.ms.toNat + period.toNat ≤ 60000 := by
  have hgains : (tick period t).total = t.total + period.toNat ↔
      t.ms.toNat + period.toNat ≤ 60000 := by
    by_cases hcarry : Carries period t
    · have hge := ((carries_iff hms).mp hcarry).2
      rw [tick_of_carries hcarry, total, total, toNat_tens_succ hruns]
      simp only [UInt16.reduceToNat]
      omega
    · have hlt : ¬ 60000 ≤ t.ms.toNat + period.toNat := fun h ↦
        hcarry ((carries_iff hms).mpr ⟨hruns, h⟩)
      rw [tick_of_not_carries hruns hcarry, total, total]
      dsimp only
      rw [toNat_ms_add hms]
      omega
  constructor
  · intro h
    exact hgains.mp (h.gains hruns)
  · intro h
    exact ⟨fun _ ↦ hgains.mpr h, fun hpark ↦ absurd hruns hpark, tens_le_tick⟩

private theorem conserves_of_parked (h : ¬ t.Runs) : Conserves period t (tick period t) :=
  ⟨fun hruns ↦ absurd hruns h, fun _ ↦ tick_of_parked h, tens_le_tick⟩

/-- Every one of the next ticks is right. -/
def ConservesFor (period : UInt8) (n : Nat) (t : Time) : Prop :=
  ∀ k < n, Conserves period (after period k t) (tick period (after period k t))

private theorem conservesFor_succ (n : Nat) :
    ConservesFor period (n + 1) t ↔
      Conserves period t (tick period t) ∧ ConservesFor period n (tick period t) := by
  constructor
  · intro h
    exact ⟨h 0 (Nat.succ_pos n), fun k hk ↦ h (k + 1) (Nat.succ_lt_succ hk)⟩
  · rintro ⟨hfirst, hrest⟩ k hk
    cases k with
    | zero => exact hfirst
    | succ k => exact hrest k (Nat.lt_of_succ_lt_succ hk)

private theorem conservesFor_of_parked (h : ¬ t.Runs) (n : Nat) : ConservesFor period n t := by
  intro k _
  rw [after_of_parked h]
  exact conserves_of_parked h

/-- Below the carry, a tick moves the condition on by one. -/
theorem lossless_succ_of_lt (n : Nat) (hms : t.ms < 60000)
    (hlt : t.ms.toNat + period.toNat < 60000) :
    Lossless period (n + 1) t ↔ Lossless period n ⟨t.tens, t.ms + period.toUInt16⟩ := by
  have hdvd : period.toNat ∣ 60000 - t.ms.toNat ↔
      period.toNat ∣ 60000 - (t.ms.toNat + period.toNat) := by
    have hsub : 60000 - t.ms.toNat = 60000 - (t.ms.toNat + period.toNat) + period.toNat := by
      omega
    rw [hsub]
    exact Nat.dvd_add_left (Nat.dvd_refl _)
  unfold Lossless
  rw [toNat_ms_add hms, hdvd, Nat.add_mul, Nat.one_mul, Nat.add_comm (n * _) period.toNat,
    Nat.add_assoc]

/-- A carry that is met exactly leaves the ticks after it to count from zero. -/
theorem lossless_succ_of_eq (hp : period ≠ 0) (hruns : t.Runs) (n : Nat)
    (heq : t.ms.toNat + period.toNat = 60000) :
    Lossless period (n + 1) t ↔ t.tens + 1 = 0xff ∨ Lossless period n ⟨t.tens + 1, 0⟩ := by
  have hpos : 0 < period.toNat := Nat.pos_of_ne_zero fun h ↦ hp (UInt8.toNat_inj.mp h)
  have hsub : 60000 - t.ms.toNat = period.toNat := by omega
  have hlast : t.tens = 254 ↔ t.tens + 1 = 0xff := by
    rw [← UInt8.toNat_inj, ← UInt8.toNat_inj, toNat_tens_succ hruns]
    simp only [UInt8.reduceToNat]
    omega
  unfold Lossless
  rw [hsub, Nat.add_mul, Nat.one_mul, hlast]
  simp only [UInt16.reduceToNat, Nat.dvd_refl, true_and, Nat.sub_zero, Nat.zero_add]
  constructor
  · rintro (hlt | hlast | hlt | hdvd)
    · omega
    · exact .inl hlast
    · exact .inr (.inl (by omega))
    · exact .inr (.inr ⟨hdvd, .inr (.inr hdvd)⟩)
  · rintro (hlast | hlt | ⟨hdvd, -⟩)
    · exact .inr (.inl hlast)
    · exact .inr (.inr (.inl (by omega)))
    · exact .inr (.inr (.inr hdvd))

/-- A carry that is passed is no multiple of the period away. -/
theorem not_lossless_succ_of_gt (n : Nat) (hms : t.ms < 60000)
    (hgt : 60000 < t.ms.toNat + period.toNat) : ¬ Lossless period (n + 1) t := by
  have hlt := UInt16.lt_iff_toNat_lt.mp hms
  simp only [UInt16.reduceToNat] at hlt
  rintro (hnone | ⟨hdvd, -⟩)
  · rw [Nat.add_mul, Nat.one_mul] at hnone
    omega
  · have hle := Nat.le_of_dvd (by omega) hdvd
    omega

/-- The next ticks of a clock that runs are all right exactly when nothing is lost in them. -/
theorem conservesFor_iff (hp : period ≠ 0) (hms : t.ms < 60000) (hruns : t.Runs) (n : Nat) :
    ConservesFor period n t ↔ Lossless period n t := by
  induction n generalizing t with
  | zero =>
    have hlt := UInt16.lt_iff_toNat_lt.mp hms
    simp only [UInt16.reduceToNat] at hlt
    exact iff_of_true (fun k hk ↦ absurd hk (Nat.not_lt_zero k)) (.inl (by omega))
  | succ n ih =>
    have hnext : (tick period t).ms < 60000 := ms_tick_lt hms
    rw [conservesFor_succ, conserves_tick_iff hms hruns]
    rcases Nat.lt_trichotomy (t.ms.toNat + period.toNat) 60000 with hlt | heq | hgt
    · have hcarry : ¬ Carries period t := fun hc ↦
        Nat.not_le.mpr hlt ((carries_iff hms).mp hc).2
      rw [tick_of_not_carries hruns hcarry] at hnext ⊢
      rw [and_iff_right (Nat.le_of_lt hlt), ih hnext hruns, lossless_succ_of_lt n hms hlt]
    · have hcarry : Carries period t := (carries_iff hms).mpr ⟨hruns, Nat.le_of_eq heq.symm⟩
      rw [tick_of_carries hcarry] at hnext ⊢
      rw [and_iff_right (Nat.le_of_eq heq), lossless_succ_of_eq hp hruns n heq]
      by_cases hpark : t.tens + 1 = 0xff
      · exact iff_of_true (conservesFor_of_parked (fun h ↦ h hpark) n) (.inl hpark)
      · rw [ih hnext hpark, or_iff_right hpark]
    · exact iff_of_false (fun h ↦ Nat.not_le.mpr hgt h.1) (not_lossless_succ_of_gt n hms hgt)

end Time

/-- Every one of the next clock interrupts counts the period right. -/
def Radio.ConservesFor (period : UInt8) (n : Nat) (r : Radio) : Prop :=
  ∀ k < n, Time.Conserves period (clockticks k r).time (clocktick (clockticks k r)).time

/-- The interrupts count as the ticks of the time do. -/
theorem Radio.conservesFor_iff (n : Nat) (r : Radio) :
    r.ConservesFor r.period n ↔ Time.ConservesFor r.period n r.time := by
  have htime (k : Nat) : (clockticks k r).time = Time.after r.period k r.time :=
    congrArg Dial.time (dial_clockticks k r)
  have hperiod (k : Nat) : (clockticks k r).period = r.period :=
    congrArg Dial.period (dial_clockticks k r)
  have htick (r : Radio) : (clocktick r).time = Time.tick r.period r.time :=
    congrArg Dial.time (dial_clocktick r)
  apply forall_congr'
  intro k
  rw [htick, htime, hperiod]

/-- A clock whose period `libradio_set_clock` has set, as the fast one that it selects or as the
slow one that a low-power state selects, counts the next interrupts right exactly when nothing
is lost in them. -/
theorem conserves_clockticks_iff (period other : UInt8) (r : Radio) (n : Nat) (hp : period ≠ 0)
    (hms : r.msTicks < 60000) (htens : r.tensOfMinutes < 255) :
    ((libradioSetClock period other r).ConservesFor period n ↔
      Time.Lossless period n r.time) ∧
    ((libradioPowerMode false (libradioSetClock other period r)).ConservesFor period n ↔
      Time.Lossless period n r.time) := by
  have hruns : r.time.Runs := by
    intro h
    rw [show r.tensOfMinutes = 0xff from h] at htens
    exact absurd htens (by decide)
  constructor
  · exact (Radio.conservesFor_iff n (libradioSetClock period other r)).trans
      (Time.conservesFor_iff hp hms hruns n)
  · exact (Radio.conservesFor_iff n
      (libradioPowerMode false (libradioSetClock other period r))).trans
      (Time.conservesFor_iff hp hms hruns n)

-- A packet has set the clock to the last tick before a carry.
private def lateRadio : Radio := { Radio.zero with msTicks := 59999 }

/-- A clock that ticks once an interrupt loses nothing, however often it carries. -/
theorem conserves_single_ticks :
    Radio.ConservesFor 1 1000000 (libradioSetClock 1 16 lateRadio) ∧
      Radio.ConservesFor 1 1000000 (libradioPowerMode false (libradioSetClock 16 1 lateRadio)) :=
  have hiff := conserves_clockticks_iff 1 16 lateRadio 1000000 (by decide) (by decide) (by decide)
  ⟨hiff.1.mpr (by decide), hiff.2.mpr (by decide)⟩

/-- The clock of the oil tank, `src/examples/oiltank.c:118`, gains one tick where it should gain
ten. -/
theorem carry_loses_remainder :
    ¬ Radio.ConservesFor 10 1 (libradioSetClock 10 160 lateRadio) := by
  intro h
  have hgains := (h 0 Nat.zero_lt_one).gains (by decide)
  exact absurd hgains (by decide)

end Libradio
