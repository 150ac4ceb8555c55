import Libradio.Base.Sampling
import Libradio.Clock.Conservation
import Libradio.Clock.Stamp

/-!
# The time slots of the channels

`tx_check_queues` sends the time to one channel in each slot of 500 ticks
(`src/control/transmit.c:84-111`). It recognises a new slot by the remainder of `ms_ticks`, which
has become less than at its last call.
-/

namespace Libradio
open Libradio.Base

namespace Time

variable {period : UInt8} {t : Time}

/-- A clock interrupt of period 1 counts one tick, if the clock runs. -/
theorem total_tick (hms : t.ms < 60000) (hruns : t.Runs) : (tick 1 t).total = t.total + 1 := by
  have hlt := UInt16.lt_iff_toNat_lt.mp hms
  simp only [UInt16.reduceToNat] at hlt
  have hfits : t.ms.toNat + (1 : UInt8).toNat ≤ 60000 := by
    simp only [UInt8.reduceToNat]
    omega
  exact ((conserves_tick_iff hms hruns).mpr hfits).gains hruns

/-- With period 1 the clock does not go back, and stays below the carry. -/
theorem total_after (hms : t.ms < 60000) (n : Nat) :
    (after 1 n t).ms < 60000 ∧ t.total ≤ (after 1 n t).total := by
  induction n generalizing t with
  | zero => exact ⟨hms, Nat.le_refl _⟩
  | succ n ih =>
    have htick : t.total ≤ (tick 1 t).total := by
      by_cases hruns : t.Runs
      · rw [total_tick hms hruns]
        exact Nat.le_succ _
      · rw [tick_of_parked hruns]
    obtain ⟨hend, hle⟩ := ih (t := tick 1 t) (ms_tick_lt hms)
    exact ⟨hend, Nat.le_trans htick hle⟩

/-- A slot of ten minutes is a slot of the day: ten minutes are 120 slots. -/
theorem total_mod (t : Time) : t.total % 500 = t.ms.toNat % 500 := by
  rw [total]
  omega

private theorem total_div_mod (t : Time) : t.total / 500 % 6 = t.ms.toNat / 500 % 6 := by
  rw [total]
  omega

end Time

namespace Ctl

variable {σ : Type}

/-! ### The calls of a run -/

/-- A call of `tx_check_queues`: the clock when it is read first, and the channel whose time slot
the call takes. -/
structure Call where
  time : Nat
  due : Option (Fin 6)
  deriving DecidableEq, Repr

/-- The slot of 500 ticks that a call falls into. -/
def Call.slot (x : Call) : Nat := x.time / 500

/-- The call takes the branch for time slots. -/
def Call.taken (x : Call) : Bool := x.due.isSome

/-- The call that an action makes, `src/control/main.c:121-122`. -/
def callOf (s : Ctl σ) : Act → Option Call
  | .check between _ =>
    if s.respChp = none then some ⟨s.dev.radio.time.total, slotDue between s⟩ else none
  | _ => none

/-- The calls of a run, in order. -/
def calls (b : Board σ) : Ctl σ → List Act → List Call
  | _, [] => []
  | s, a :: as => (callOf s a).toList ++ calls b (step b s a) as

/-- The clock counts single ticks and is set neither by a command nor by a packet. The queues are
checked by a controller that listens at least, and the two readings of the clock by a call that
takes a time slot are adjacent: at most one clock interrupt falls between them. -/
def Undisturbed (b : Board σ) (s : Ctl σ) (a : Act) : Prop :=
  s.dev.radio.period = 1 ∧ s.dev.radio.time.Runs ∧
    match a with
    | .tick => True
    | .poll => (poll b s).dev.radio.time = s.dev.radio.time
    | .input ch => (processInput b ch s).dev.radio.time = s.dev.radio.time
    | .check between _ => s.respChp = none → LIBRADIO_STATE_LISTEN ≤ s.dev.radio.state ∧
      ((slotDue between s).isSome → between ≤ 1)

instance (b : Board σ) (s : Ctl σ) : ∀ a, Decidable (Undisturbed b s a)
  | .tick => inferInstanceAs (Decidable (_ ∧ _ ∧ True))
  | .poll => inferInstanceAs (Decidable (_ ∧ _ ∧ _ = _))
  | .input _ => inferInstanceAs (Decidable (_ ∧ _ ∧ _ = _))
  | .check _ _ => inferInstanceAs (Decidable (_ ∧ _ ∧ (_ → _ ∧ (_ → _))))

/-- A pass that takes the time slot of an EMPTY channel builds a SET_TIME packet there and hands it
to `libradio_send`. -/
def FillsSlot (b : Board σ) (s : Ctl σ) : Act → Prop
  | .check between inSend => s.respChp = none → ∀ c, slotDue between s = some c →
    (s.chan c).state = .empty → ∃ p ok, p.node = 0 ∧ p.len = 1 ∧ p.cmd = RADIO_CMD_SET_TIME ∧
      dataByte p.data 0 = (clockticks between s.dev.radio).tensOfMinutes ∧
      (check b between inSend s).hist = .send c .transmit p ok :: .slot c p :: s.hist
  | _ => True

/-- Between the first call and the last one, each slot is taken by exactly one call, and of any six
slots in a row each channel has exactly one. -/
structure Covers (xs : List Call) : Prop where
  once : ∀ first ∈ xs.head?, ∀ last ∈ xs.getLast?, ∀ k, first.slot < k → k ≤ last.slot →
    xs.countP (fun x ↦ x.taken ∧ x.slot = k) = 1
  each : ∀ first ∈ xs.head?, ∀ last ∈ xs.getLast?, ∀ k, first.slot < k → k + 5 ≤ last.slot →
    ∀ c, xs.countP (fun x ↦ x.due = some c ∧ k ≤ x.slot ∧ x.slot < k + 6) = 1

/-! ### What keeps `last_modulo` -/

private theorem lastModulo_mycommand (b : Board σ) (p : Packet) (s : Ctl σ) :
    (mycommand b p s).1.lastModulo = s.lastModulo := by
  cases obeyed_mycommand b p s with
  | passed cmd eq | ignored config code eq | setTime cmd len eq => rw [eq]
  | activated cmd len eq =>
    rw [eq]
    unfold activate
    dsimp only
    split <;> rfl
  | status cmd len eq | readEeprom cmd len eq | configured c config of eq =>
    rw [eq]
    rfl

/-- A character keeps `last_modulo`, or restarts the program. -/
theorem lastModulo_processInput (b : Board σ) (ch : UInt8) (s : Ctl σ) :
    (processInput b ch s).lastModulo = s.lastModulo ∨
      processInput b ch s = boot b (s.note (.input ch)) := by
  by_cases hcomp : Completes s ch
  · have hcompleted : completed ch s = some (s.currChp, _) := if_pos hcomp
    by_cases hown : IsLocal s.dev.radio ((filled ch s).chan s.currChp).packet.content
    · obtain ⟨P, t, st, -, hstarted, heq⟩ := local_of_completed b hcompleted hown
      left
      rw [heq, lastModulo_executed, lastModulo_mycommand, hstarted.lastModulo]
    · exact .inl (foreign_of_completed b hcompleted hown).lastModulo
  · cases aside_processInput b hcomp with
    | booted before reset eq => exact .inr eq
    | reported stype radio lastModulo hist out => exact .inl lastModulo
    | refused code error radio lastModulo hist out => exact .inl lastModulo
    | quiet radio lastModulo hist out => exact .inl lastModulo

private theorem lastModulo_poll (b : Board σ) (s : Ctl σ) :
    (poll b s).lastModulo = s.lastModulo := by
  have hresponse (c : Fin 6) (t : Ctl σ) : (txresponse b c t).lastModulo = t.lastModulo := by
    unfold txresponse
    dsimp only
    split <;> rfl
  unfold poll
  split
  · rfl
  · dsimp only
    split
    · exact hresponse _ _
    · split <;> rfl

/-- The transmissions of a pass that looks at the clock store its remainder. -/
theorem lastModulo_check (b : Board σ) (between inSend : Nat) {s : Ctl σ}
    (hfree : s.respChp = none) (hlisten : LIBRADIO_STATE_LISTEN ≤ s.dev.radio.state) :
    (check b between inSend s).lastModulo = s.dev.radio.msTicks.toNat % 500 := by
  have hread : (readClock between s).lastModulo = s.dev.radio.msTicks.toNat % 500 := rfl
  have hsent (c : Fin 6) (t : Ctl σ) : (sentOn c t).lastModulo = t.lastModulo := by
    unfold sentOn
    split <;> rfl
  have hsend (c : Fin 6) (t : Ctl σ) : (sendOn b inSend c t).lastModulo = t.lastModulo := by
    unfold sendOn
    dsimp only
    split
    · exact hsent c _
    · rfl
  have htransmit (c : Fin 6) (t : Ctl σ) :
      (transmitOn b inSend c t).lastModulo = t.lastModulo := by
    unfold transmitOn
    split
    · rfl
    · exact hsend c t
  have hfill (c : Fin 6) (t : Ctl σ) : (fillSlot c t).lastModulo = t.lastModulo := by
    unfold fillSlot
    split <;> rfl
  cases checked_check b between inSend s with
  | awaiting awaited eq => exact absurd hfree awaited
  | deaf free deaf eq => exact absurd deaf (UInt8.not_lt.mpr hlisten)
  | slot c free listens due eq => rw [eq, htransmit, hfill, hread]
  | idle free listens due none eq => rw [eq, hread]
  | picked c free listens due some eq => rw [eq, htransmit, hread]

/-! ### The clock of a run -/

/-- A start stops the clock. -/
theorem not_runs_boot (b : Board σ) (s : Ctl σ) : ¬ (boot b s).dev.radio.time.Runs := by
  have hwarm (r : Radio) (h : r.tensOfMinutes = 0xff) :
      (libradioSetState LIBRADIO_STATE_WARM r).tensOfMinutes = 0xff := by
    unfold libradioSetState
    split
    · exact h
    · dsimp only
      rw [if_pos (.inr rfl)]
      rfl
  have hinit (d : Dev σ) : (libradioInit b 1 1 1 1 d).radio.tensOfMinutes = 0xff :=
    (asked_libradioGetFifoInfo b.keeps_true 3 _).tensOfMinutes
  intro hruns
  apply hruns
  exact hwarm _ (hinit _)

/-- An action neither turns the clock back nor takes it out of range. -/
theorem clock_step (b : Board σ) {s : Ctl σ} {a : Act} (hms : s.dev.radio.time.ms < 60000)
    (h : Undisturbed b s a) : (step b s a).dev.radio.time.ms < 60000 ∧
      s.dev.radio.time.total ≤ (step b s a).dev.radio.time.total := by
  obtain ⟨hperiod, -, hact⟩ := h
  have hafter {s' : Ctl σ} (n : Nat) (hdial : s'.dev.radio.dial = s.dev.radio.dial.after n) :
      s'.dev.radio.time.ms < 60000 ∧ s.dev.radio.time.total ≤ s'.dev.radio.time.total := by
    have htime : s'.dev.radio.time = Time.after s.dev.radio.period n s.dev.radio.time :=
      congrArg Dial.time hdial
    rw [htime, hperiod]
    exact Time.total_after hms n
  have hsame {s' : Ctl σ} (htime : s'.dev.radio.time = s.dev.radio.time) :
      s'.dev.radio.time.ms < 60000 ∧ s.dev.radio.time.total ≤ s'.dev.radio.time.total := by
    rw [htime]
    exact ⟨hms, Nat.le_refl _⟩
  cases a with
  | tick =>
    have hdial : (step b s .tick).dev.radio.dial = s.dev.radio.dial.after 1 := by
      dsimp only [step]
      exact dial_clocktick s.dev.radio
    exact hafter 1 hdial
  | poll => exact hsame hact
  | input ch => exact hsame hact
  | check between inSend =>
    cases timed_check b between inSend s with
    | quiet n le dial hist => exact hafter n dial
    | sent c st p ok before hist n le dial stamped built =>
      refine hafter (between + n) (dial.trans ?_)
      rw [Dial.after, Dial.after, Dial.after, Time.after_add]

/-- Between the calls `last_modulo` stays what it is. -/
theorem lastModulo_step (b : Board σ) {s : Ctl σ} {a : Act} (h : Undisturbed b s a)
    (hnone : callOf s a = none) : (step b s a).lastModulo = s.lastModulo := by
  obtain ⟨-, hruns, hact⟩ := h
  cases a with
  | tick => rw [step]
  | poll => exact lastModulo_poll b s
  | input ch =>
    rcases lastModulo_processInput b ch s with hsame | hboot
    · exact hsame
    · rw [← hact, hboot] at hruns
      exact absurd hruns (not_runs_boot b _)
  | check between inSend =>
    have hbusy : s.respChp ≠ none := fun hfree ↦ by
      rw [callOf, if_pos hfree] at hnone
      cases hnone
    show (check b between inSend s).lastModulo = s.lastModulo
    rw [check, if_neg hbusy]

/-- The clock is in range, `last_modulo` is the remainder of the last call, made at time `t`, and
the clock has not gone back since. -/
structure Metered (s : Ctl σ) (t : Nat) : Prop where
  ms : s.dev.radio.time.ms < 60000
  lastModulo : s.lastModulo = t % 500
  le : t ≤ s.dev.radio.time.total

/-- An action that is no call. -/
theorem Metered.step {b : Board σ} {s : Ctl σ} {a : Act} {t : Nat} (h : Metered s t)
    (hu : Undisturbed b s a) (hnone : callOf s a = none) : Metered (step b s a) t := by
  obtain ⟨hms, hle⟩ := clock_step b h.ms hu
  exact ⟨hms, (lastModulo_step b hu hnone).trans h.lastModulo, Nat.le_trans h.le hle⟩

/-- A call starts the measurement anew. -/
theorem metered_call (b : Board σ) {s : Ctl σ} {a : Act} {x : Call}
    (hms : s.dev.radio.time.ms < 60000) (hu : Undisturbed b s a) (hx : callOf s a = some x) :
    Metered (step b s a) x.time := by
  obtain ⟨hms', hle⟩ := clock_step b hms hu
  obtain ⟨-, -, hact⟩ := hu
  cases a with
  | tick | poll | input => cases hx
  | check between inSend =>
    rw [callOf] at hx
    split at hx
    · next hfree =>
      cases hx
      have hmodulo := lastModulo_check b between inSend hfree (hact hfree).1
      exact ⟨hms', hmodulo.trans (Time.total_mod s.dev.radio.time).symm, hle⟩
    · cases hx

/-- One clock interrupt more does not leave a slot whose remainder is not at its end. -/
theorem slotChannel_clockticks {r : Radio} {n : Nat} (hms : r.time.ms < 60000)
    (hperiod : r.period = 1) (hruns : r.time.Runs) (hn : n ≤ 1)
    (hend : r.msTicks.toNat % 500 < 499) :
    (slotChannel (clockticks n r)).val = r.time.total / 500 % 6 := by
  have htime : (clockticks n r).time = Time.after r.period n r.time :=
    congrArg Dial.time (dial_clockticks n r)
  have hslot : (slotChannel (clockticks n r)).val =
      (clockticks n r).time.ms.toNat / 500 % 6 := rfl
  rw [hslot, htime, hperiod, Time.total_div_mod]
  have hsame : r.msTicks = r.time.ms := rfl
  rw [hsame] at hend
  rcases Nat.le_one_iff_eq_zero_or_eq_one.mp hn with rfl | rfl
  · rfl
  · have hlt := UInt16.lt_iff_toNat_lt.mp hms
    simp only [UInt16.reduceToNat] at hlt
    have hcarry : ¬ Time.Carries 1 r.time := by
      rw [Time.carries_iff hms, not_and, Nat.not_le]
      intro _
      simp only [UInt8.reduceToNat]
      omega
    have hadd : (r.time.ms + (1 : UInt8).toUInt16).toNat = r.time.ms.toNat + 1 :=
      Time.toNat_ms_add hms
    rw [Time.after, Time.after, Time.tick_of_not_carries hruns hcarry, hadd]
    omega

/-- A call takes a time slot exactly if the remainder of the clock has become less, and then it is
the slot it falls into. -/
theorem Metered.call {b : Board σ} {s : Ctl σ} {a : Act} {t : Nat} {x : Call} (h : Metered s t)
    (hu : Undisturbed b s a) (hx : callOf s a = some x) :
    t ≤ x.time ∧ (x.taken = true ↔ x.time % 500 < t % 500) ∧
      ∀ c, x.due = some c → c.val = x.slot % 6 := by
  obtain ⟨hperiod, hruns, hact⟩ := hu
  cases a with
  | tick | poll | input => cases hx
  | check between inSend =>
    rw [callOf] at hx
    split at hx
    · next hfree =>
      cases hx
      obtain ⟨hlisten, hadjacent⟩ := hact hfree
      have hmod := Time.total_mod s.dev.radio.time
      have hms : s.dev.radio.time.ms = s.dev.radio.msTicks := rfl
      have hdue : slotDue between s =
          if s.dev.radio.time.total % 500 < t % 500
            then some (slotChannel (clockticks between s.dev.radio)) else none := by
        rw [slotDue, if_neg (UInt8.not_lt.mpr hlisten), h.lastModulo, hmod, hms]
      refine ⟨h.le, ?_, fun c hc ↦ ?_⟩
      · show (slotDue between s).isSome = true ↔ _
        rw [hdue]
        split <;> simp_all
      · have hc' : slotDue between s = some c := hc
        have hle := hadjacent (by rw [hc']; rfl)
        rw [hdue] at hc'
        split at hc'
        · next hfall =>
          cases hc'
          rw [hmod, hms] at hfall
          exact slotChannel_clockticks h.ms hperiod hruns hle (by omega)
        · cases hc'
    · cases hx

/-- The calls after one at time `t` sample the clock. -/
theorem Metered.calls {b : Board σ} {s : Ctl σ} {t : Nat} (h : Metered s t) {as : List Act}
    (hu : Along (Ctl.step b) (Undisturbed b) s as) :
    Sampled 500 Call.time Call.taken t (calls b s as) ∧
      ∀ x ∈ calls b s as, ∀ c, x.due = some c → c.val = x.slot % 6 := by
  induction as generalizing s t with
  | nil => exact ⟨trivial, nofun⟩
  | cons a as ih =>
    obtain ⟨hfirst, hrest⟩ := hu
    rw [Ctl.calls]
    cases hx : callOf s a with
    | none => exact ih (h.step hfirst hx) hrest
    | some x =>
      obtain ⟨hle, hmark, htarget⟩ := h.call hfirst hx
      obtain ⟨hsampled, htargets⟩ := ih (metered_call b h.ms hfirst hx) hrest
      exact ⟨⟨hle, hmark, hsampled⟩, List.forall_mem_cons.mpr ⟨htarget, htargets⟩⟩

/-- The calls after the first one of a run sample the clock. -/
theorem sampled_calls (b : Board σ) {s : Ctl σ} {as : List Act} {first : Call} {rest : List Call}
    (hms : s.dev.radio.time.ms < 60000) (hu : Along (step b) (Undisturbed b) s as)
    (hcalls : calls b s as = first :: rest) :
    Sampled 500 Call.time Call.taken first.time rest ∧
      ∀ x ∈ rest, ∀ c, x.due = some c → c.val = x.slot % 6 := by
  induction as generalizing s with
  | nil => cases hcalls
  | cons a as ih =>
    obtain ⟨hfirst, hrest⟩ := hu
    rw [calls] at hcalls
    cases hx : callOf s a with
    | none =>
      rw [hx] at hcalls
      exact ih (clock_step b hms hfirst).1 hrest hcalls
    | some x =>
      rw [hx] at hcalls
      cases hcalls
      exact (metered_call b hms hfirst hx).calls hrest

/-- Calls that sample the clock closely enough cover the slots. -/
theorem covers_of_sampled {first : Call} {rest : List Call}
    (h : Sampled 500 Call.time Call.taken first.time rest)
    (hclose : Close 500 Call.time first.time rest)
    (htarget : ∀ x ∈ rest, ∀ c, x.due = some c → c.val = x.slot % 6) : Covers (first :: rest) := by
  have hend {last : Call} (hlast : last ∈ (first :: rest).getLast?) :
      lastTime Call.time first.time rest / 500 = last.slot := by
    rw [List.getLast?_cons, Option.mem_some_iff] at hlast
    rw [lastTime_eq, List.getLastD_eq_getLast?, hlast]
    rfl
  constructor
  · intro x hx last hlast k hlt hle
    cases Option.mem_some_iff.mp hx
    have hslots := h.countP_slots hclose fun j ↦ j = k
    rw [hend hlast] at hslots
    rw [List.countP_cons_of_neg (by simp only [decide_eq_true_eq]; omega)]
    calc rest.countP (fun x ↦ x.taken ∧ x.slot = k)
      _ = rest.countP (fun x ↦ x.taken && decide (x.time / 500 = k)) := by
        apply List.countP_congr
        intro x _
        rw [decide_eq_true_iff, Bool.and_eq_true, decide_eq_true_iff]
        rfl
      _ = _ := hslots
      _ = 1 := by
        apply countP_range'_eq_one (j := k)
        · unfold Call.slot at hlt hle ⊢
          omega
        · intro j _ _
          rw [decide_eq_true_iff]
  · intro x hx last hlast k hlt hle c
    cases Option.mem_some_iff.mp hx
    have hslots := h.countP_slots hclose fun j ↦ j % 6 = c.val ∧ k ≤ j ∧ j < k + 6
    rw [hend hlast] at hslots
    have hc := c.isLt
    rw [List.countP_cons_of_neg (by simp only [decide_eq_true_eq]; omega)]
    calc rest.countP (fun x ↦ x.due = some c ∧ k ≤ x.slot ∧ x.slot < k + 6)
      _ = rest.countP (fun x ↦ x.taken &&
          decide (x.time / 500 % 6 = c.val ∧ k ≤ x.time / 500 ∧ x.time / 500 < k + 6)) := by
        apply List.countP_congr
        intro x hx
        rw [decide_eq_true_iff, Bool.and_eq_true, decide_eq_true_iff]
        constructor
        · rintro ⟨hdue, hslot⟩
          exact ⟨by rw [Call.taken, hdue]; rfl, (htarget x hx c hdue).symm, hslot⟩
        · rintro ⟨htaken, hmod, hslot⟩
          obtain ⟨c', hdue⟩ := Option.isSome_iff_exists.mp htaken
          have hsame : c' = c := Fin.ext ((htarget x hx c' hdue).trans hmod)
          exact ⟨hsame ▸ hdue, hslot⟩
      _ = _ := hslots
      _ = 1 := by
        apply countP_range'_eq_one (j := k + (c.val + 6 - k % 6) % 6)
        · unfold Call.slot at hlt hle ⊢
          omega
        · intro j _ _
          rw [decide_eq_true_iff]
          omega

/-- A slot is filled before anything is sent. -/
theorem fillsSlot (b : Board σ) (s : Ctl σ) (a : Act) : FillsSlot b s a := by
  cases a with
  | tick | poll | input => trivial
  | check between inSend =>
    intro hfree c hdue hempty
    have hcheck : check b between inSend s =
        transmitOn b inSend c (fillSlot c (readClock between s)) := by
      cases checked_check b between inSend s with
      | awaiting awaited eq => exact absurd hfree awaited
      | deaf free deaf eq =>
        rw [slotDue, if_pos deaf] at hdue
        cases hdue
      | slot c' free listens due eq =>
        cases hdue.symm.trans due
        exact eq
      | idle free listens due none eq => cases hdue.symm.trans due
      | picked c' free listens due some eq => cases hdue.symm.trans due
    have hradio : (readClock between s).dev.radio = clockticks between s.dev.radio := rfl
    have hchan (d : Fin 6) : (readClock between s).chan d = s.chan d := rfl
    have hhist : (readClock between s).hist = s.hist := rfl
    rw [hcheck]
    generalize readClock between s = s₀ at hradio hchan hhist ⊢
    rw [fillSlot, if_pos (by rw [hchan]; exact hempty), hradio]
    dsimp only
    generalize hp :
      timePacket (clockticks between s.dev.radio).tensOfMinutes (s₀.chan c).packet = p
    have hself : ((s₀.modify c fun _ ↦ ⟨.transmit, 0xff, p⟩).note (.slot c p.content)).chan c =
        ⟨.transmit, 0xff, p⟩ := chan_modify_self c (fun _ ↦ ⟨.transmit, 0xff, p⟩) s₀
    obtain ⟨ok, -, -, -, -, -, hsent⟩ := sendOn_spec b inSend c
      ((s₀.modify c fun _ ↦ ⟨.transmit, 0xff, p⟩).note (.slot c p.content))
    rw [hself, hist_note, hist_modify, hhist] at hsent
    refine ⟨p.content, ok, ?_, ?_, ?_, ?_, ?_⟩
    · rw [← hp]
      rfl
    · rw [← hp]
      rfl
    · rw [← hp]
      rfl
    · rw [← hp]
      exact dataByte_timePacket _ _
    · have hopen : ¬ ChState.transmit.toNat < ChState.empty.toNat := by decide
      rw [transmitOn, hself, if_neg (by exact hopen)]
      exact hsent

/-- In every run of a controller whose clock counts single ticks and is not set, and that looks
after its queues at least every 499 ticks, each slot of 500 ticks that is entered after the first
call is taken by exactly one call, and any six slots in a row by one call for each channel, which
queues the time there if the channel is EMPTY. -/
theorem covers_calls (b : Board σ) (s : Ctl σ) (as : List Act) (hms : s.dev.radio.msTicks < 60000)
    (hu : Along (step b) (Undisturbed b) s as)
    (hgap : (calls b s as).IsChain fun x y ↦ y.time < x.time + 500) :
    Covers (calls b s as) ∧ Along (step b) (FillsSlot b) s as := by
  constructor
  · cases hcalls : calls b s as with
    | nil => exact ⟨nofun, nofun⟩
    | cons first rest =>
      obtain ⟨hsampled, htarget⟩ := sampled_calls b hms hu hcalls
      rw [hcalls] at hgap
      exact covers_of_sampled hsampled (close_of_isChain hgap) htarget
  · rw [along_iff_split]
    intro pre a post _
    exact fillsSlot b _ a

private def quietRadio : Board Nat := .scripted fun _ _ ↦ SI4463_STATE_READY

-- An active controller whose clock is at 450 ticks, with channel B EMPTY.
private def timedController : Ctl Nat :=
  run (step quietRadio) (start quietRadio 0 (fun _ ↦ 0) 0)
    ((characters ">A0:3:0,1,0.\n>B1:5:1,194,7.\n").map .input)

-- Two calls 60 ticks apart, with a clock interrupt between the readings of the second one.
private def twoCalls : List Act := .check 0 0 :: (List.replicate 60 .tick ++ [.check 1 0])

/-- The second call takes slot 841 of the day, which is one of channel B. -/
theorem covers_calls_twoCalls :
    calls quietRadio timedController twoCalls = [⟨420450, none⟩, ⟨420510, some 1⟩] ∧
      Covers (calls quietRadio timedController twoCalls) ∧
      Along (step quietRadio) (FillsSlot quietRadio) timedController twoCalls :=
  ⟨by decide +kernel, covers_calls quietRadio timedController twoCalls (by decide +kernel)
    (by decide +kernel) (by decide +kernel)⟩

end Ctl
end Libradio
