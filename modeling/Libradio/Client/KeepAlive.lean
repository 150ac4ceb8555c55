import Libradio.Base.Watchdog
import Libradio.Client.Pass

/-!
# Staying active

A client stays active as long as it sees radio traffic (`src/README.md:31-35`):
`libradio_set_state` and the loop load `timeout`, and every pass in an active state lowers it
(`src/lib/state.c:128-136`, `src/lib/loop.c:97-111`).
-/

namespace Libradio
open Libradio.Base

variable {σ : Type}

/-! ### What a command does to the timeout -/

/-- The application loads the timeout through `libradio_set_state` only. -/
structure App.KeepsTimeout (app : App σ) : Prop where
  operate : ∀ p d, (app.operate p d).radio.state = d.radio.state →
    (app.operate p d).radio.timeout = d.radio.timeout
  fetchStatus : ∀ i d, (app.fetchStatus i d).1.radio.state = d.radio.state →
    (app.fetchStatus i d).1.radio.timeout = d.radio.timeout

/-- The idle application has nothing to do with it. -/
theorem keepsTimeout_idleApp : (Client.idleApp : App σ).KeepsTimeout :=
  ⟨fun _ _ _ ↦ rfl, fun _ _ _ ↦ rfl⟩

/-- A state that is set already is not entered again. -/
theorem timeout_libradioSetState_same {st : UInt8} (hst : st ≠ LIBRADIO_STATE_STARTUP)
    (r : Radio) (h : (libradioSetState st r).state = r.state) :
    (libradioSetState st r).timeout = r.timeout := by
  rw [state_libradioSetState] at h
  rw [libradioSetState, if_pos ⟨hst, h.symm⟩]

/-- A response leaves the timeout alone, and it can only lead to ERROR. -/
theorem Responded.timeout {b : Board σ} {R : σ → σ → Prop} {d d' : Dev σ}
    (h : Responded b R d d') :
    d'.radio.timeout = d.radio.timeout ∧
      (d'.radio.state = d.radio.state ∨ d'.radio.state = LIBRADIO_STATE_ERROR) := by
  cases h with
  | listening _ hl =>
    exact ⟨congrArg Station.timeout hl.station, .inl (congrArg Station.state hl.station)⟩
  | late _ hl =>
    exact ⟨congrArg Station.timeout hl.station, .inr (congrArg Station.state hl.station)⟩
  | failed _ hs =>
    exact ⟨congrArg Station.timeout hs.station, .inr (congrArg Station.state hs.station)⟩

-- A response that leaves an active client in its state leaves the timeout alone.
private theorem timeout_of_responded {b : Board σ} {R : σ → σ → Prop} {d e d' : Dev σ}
    (hactive : LIBRADIO_STATE_ACTIVE ≤ d.radio.state)
    (he : e.radio.state = d.radio.state → e.radio.timeout = d.radio.timeout)
    (h : Responded b R e d') (hsame : d'.radio.state = d.radio.state) :
    d'.radio.timeout = d.radio.timeout := by
  obtain ⟨htimeout, hstate | herror⟩ := h.timeout
  · rw [htimeout]
    exact he (hstate.symm.trans hsame)
  · rw [← hsame, herror] at hactive
    exact absurd hactive (by decide)

/-- A command that leaves the state alone leaves the timeout alone. -/
theorem timeout_libradioCommand (b : Board σ) {app : App σ} (happ : app.KeepsTimeout)
    (fuel : Nat) (p : Packet) (d : Dev σ)
    (h : (libradioCommand b app fuel p d).radio.state = d.radio.state) :
    (libradioCommand b app fuel p d).radio.timeout = d.radio.timeout := by
  have hresponse := responded_libradioSendResponse b.carries_true fuel
  cases executed_libradioCommand b app fuel p d with
  | nothing _ _ _ eq => rw [eq]
  | activated _ eq =>
    rw [eq] at h ⊢
    exact timeout_libradioSetState_same (by decide)
      { d.radio with myChannel := dataByte p.data 0, myNodeId := dataByte p.data 1 } h
  | deactivated _ eq =>
    rw [eq] at h ⊢
    exact timeout_libradioSetState_same (by decide) { d.radio with myChannel := 0, myNodeId := 0 } h
  | setTime _ _ _ eq => rw [eq]
  | setDate _ _ _ eq => rw [eq]
  | silent _ _ _ _ eq =>
    rw [eq] at h ⊢
    exact happ.fetchStatus _ d h
  | status active _ _ _ eq =>
    rw [eq] at h ⊢
    exact timeout_of_responded active (happ.fetchStatus _ d) (hresponse _ _ _ _ _ _) h
  | readEeprom buffer addr active _ _ eq =>
    rw [eq] at h ⊢
    exact timeout_of_responded (e := { d with statusbuffer := buffer }) active (fun _ ↦ rfl)
      (hresponse _ _ _ _ _ _) h
  | writeEeprom _ _ _ eq => rw [eq]
  | operate _ _ eq =>
    rw [eq] at h ⊢
    exact happ.operate p d h

/-- So does the part of a pass before its `switch`. -/
theorem timeout_rxloopHandle (b : Board σ) {app : App σ} (happ : app.KeepsTimeout)
    (fuel ticks : Nat) (d : Dev σ)
    (h : (rxloopHandle b app fuel ticks d).radio.state = d.radio.state) :
    (rxloopHandle b app fuel ticks d).radio.timeout = d.radio.timeout := by
  by_cases hirq : d.radio.irqFired ≠ 0
  · have hstation := (handed_spec b.keeps_true ticks hirq fun _ ↦ trivial).1
    have hstate := congrArg Station.state hstation
    have htimeout := congrArg Station.timeout hstation
    simp only [Radio.station] at hstate htimeout
    rw [rxloopHandle_of_irq b app fuel ticks hirq] at h ⊢
    cases haccepted : Client.accepted b d with
    | none => exact htimeout
    | some p =>
      rw [haccepted] at h
      rw [← htimeout]
      apply timeout_libradioCommand b happ
      rw [hstate]
      exact h
  · simp only [rxloopHandle, if_neg hirq]

/-! ### The countdown -/

/-- The state was just entered: it was not set before, and the timeout is the one that
`libradio_set_state` loads on the way in. -/
def Entered (st : UInt8) (r : Radio) : Prop :=
  r.state = st ∧ ∃ r₀ : Radio, r₀.state ≠ st ∧ r.timeout = (libradioSetState st r₀).timeout

/-- `libradio_set_state` enters every state but the one that is set. -/
theorem entered_libradioSetState {st : UInt8} {r : Radio} (h : r.state ≠ st) :
    Entered st (libradioSetState st r) := ⟨state_libradioSetState st r, r, h, rfl⟩

/-- A state from ACTIVE on is none of those below. -/
theorem ne_of_active {st c : UInt8} (hst : LIBRADIO_STATE_ACTIVE ≤ st)
    (hc : ¬LIBRADIO_STATE_ACTIVE ≤ c) : st ≠ c :=
  fun heq ↦ hc (heq ▸ hst)

/-- Every state from ACTIVE on is entered with the same timeout. -/
theorem Entered.timeout {st : UInt8} {r : Radio} (h : Entered st r)
    (hst : LIBRADIO_STATE_ACTIVE ≤ st) : r.timeout = 6000 := by
  obtain ⟨_, r₀, hne, htimeout⟩ := h
  have hcold : st ≠ LIBRADIO_STATE_COLD := ne_of_active hst (by decide)
  have hwarm : st ≠ LIBRADIO_STATE_WARM := ne_of_active hst (by decide)
  have hlisten : st ≠ LIBRADIO_STATE_LISTEN := ne_of_active hst (by decide)
  have herror : st ≠ LIBRADIO_STATE_ERROR := ne_of_active hst (by decide)
  rw [htimeout, libradioSetState, if_neg fun hsame ↦ hne hsame.2]
  simp only [hcold, hwarm, hlisten, herror, or_self, if_false]
  rfl

-- The counting of a pass is one round of the countdown.
private theorem toNat_lowered {r : Radio} (h : r.timeout ≠ 0) :
    ((if r.sawRx then (60000 : UInt16) else r.timeout) - 1).toNat =
      Watchdog.round 60000 r.timeout.toNat r.sawRx := by
  cases r.sawRx with
  | true =>
    simp only [Watchdog.round, if_true]
    decide
  | false =>
    have hpos : r.timeout.toNat ≠ 0 := fun hz ↦ h (UInt16.toNat_inj.mp hz)
    have hle : (1 : UInt16) ≤ r.timeout := UInt16.le_iff_toNat_le.mpr (by simp; omega)
    simp only [Watchdog.round, Bool.false_eq_true, if_false]
    rw [UInt16.toNat_sub_of_le _ _ hle]
    rfl

/-- The `switch` of a pass in an active state: the countdown goes on, or it runs out and the
client goes to WARM. -/
theorem rxloopSwitch_active {r : Radio} (hst : LIBRADIO_STATE_ACTIVE ≤ r.state)
    (h : r.timeout ≠ 0) :
    (Watchdog.round 60000 r.timeout.toNat r.sawRx = 0 →
        (rxloopSwitch r).state = LIBRADIO_STATE_WARM) ∧
      (Watchdog.round 60000 r.timeout.toNat r.sawRx ≠ 0 →
        (rxloopSwitch r).state = r.state ∧
        (rxloopSwitch r).timeout.toNat = Watchdog.round 60000 r.timeout.toNat r.sawRx) := by
  have hstartup : r.state ≠ LIBRADIO_STATE_STARTUP := ne_of_active hst (by decide)
  have hcold : r.state ≠ LIBRADIO_STATE_COLD := ne_of_active hst (by decide)
  have hwarm : r.state ≠ LIBRADIO_STATE_WARM := ne_of_active hst (by decide)
  have hawake : ¬IsAsleep r.state := by
    simp only [IsAsleep, hstartup, hcold, hwarm, or_self, not_false_iff]
  have hactive : rxloopSwitch r = rxloopActive r := by
    rw [rxloopSwitch, if_neg (ne_of_active hst (by decide)), if_neg hawake,
      if_neg (ne_of_active hst (by decide))]
  have hlow := toNat_lowered h
  have hzero {t : UInt16} : t.toNat = 0 → t = 0 := fun hz ↦ UInt16.toNat_inj.mp hz
  rw [hactive]
  simp only [rxloopActive]
  cases hsaw : r.sawRx
  all_goals
    simp only [hsaw, Bool.false_eq_true, if_false, if_true] at hlow ⊢
    rw [← hlow]
    split
    · next hout =>
      refine ⟨fun _ ↦ state_libradioSetState _ _, fun hne ↦ absurd ?_ hne⟩
      rw [hout]
      rfl
    · next hgoes => exact ⟨fun hz ↦ absurd (hzero hz) hgoes, fun _ ↦ ⟨rfl, rfl⟩⟩

/-! ### Runs -/

/-- A device with what each pass so far has found in `saw_rx`. -/
structure Watched (σ : Type) where
  dev : Dev σ
  found : List Bool

namespace Watched

variable (b : Board σ) (app : App σ) (fuel : Nat)

/-- What a pass finds: only a pass that has a reason to wake up gets to its `switch`. -/
def finds (d : Dev σ) : Client.Event → List Bool
  | .pass ticks serial =>
    if Wakes serial d.radio then [(rxloopHandle b app fuel ticks d).radio.sawRx] else []
  | _ => []

/-- An event happens, and the observation of its pass is noted. -/
def step (w : Watched σ) (e : Client.Event) : Watched σ :=
  ⟨Client.step b app fuel w.dev e, w.found ++ finds b app fuel w.dev e⟩

/-- The state was entered between two passes, or inside one, which still has its `switch` to
do. -/
def enter (inside : Bool) (d : Dev σ) : Watched σ :=
  if inside then ⟨{ d with radio := rxloopSwitch d.radio }, [d.radio.sawRx]⟩ else ⟨d, []⟩

/-- The command and the application calls of the event do not change the state. -/
def KeepsState (w : Watched σ) : Client.Event → Prop
  | .pass ticks serial => Wakes serial w.dev.radio →
    (rxloopHandle b app fuel ticks w.dev).radio.state = w.dev.radio.state
  | _ => True

/-- 60000 passes from the latest one on that found `saw_rx` set, or 6000 passes if none did. -/
def Expired (w : Watched σ) : Prop := Watchdog.Expired 6000 60000 w.found

/-- The client keeps its state, and its timeout is what the countdown has left. -/
structure Counting (st : UInt8) (w : Watched σ) : Prop where
  state : w.dev.radio.state = st
  timeout : w.dev.radio.timeout.toNat = run (Watchdog.round 60000) 6000 w.found
  live : ∀ pre, pre <+: w.found → ¬Watchdog.Expired 6000 60000 pre

private theorem Counting.timeout_ne_zero {st : UInt8} {w : Watched σ} (h : w.Counting st) :
    w.dev.radio.timeout ≠ 0 := by
  intro hz
  have hleft := h.timeout
  rw [hz] at hleft
  exact h.live _ (List.prefix_refl _)
    ((Watchdog.run_eq_zero_iff (by decide) fun pre hpre _ ↦ h.live pre hpre).mp hleft.symm)

/-- One more round: the client goes to WARM, or it goes on counting. -/
structure Rounded (st : UInt8) (w : Watched σ) : Prop where
  expired : w.Expired → w.dev.radio.state = LIBRADIO_STATE_WARM
  counting : ¬w.Expired → w.Counting st

private theorem Counting.rounded {st : UInt8} {w : Watched σ} (h : w.Counting st) :
    w.Rounded st where
  expired := fun hexp ↦ absurd hexp (h.live _ (List.prefix_refl _))
  counting := fun _ ↦ h

/-- The `switch` is a round of the countdown. -/
theorem rounded_rxloopSwitch {st : UInt8} (hst : LIBRADIO_STATE_ACTIVE ≤ st) {w : Watched σ}
    (h : w.Counting st) :
    Rounded st ⟨{ w.dev with radio := rxloopSwitch w.dev.radio },
      w.found ++ [w.dev.radio.sawRx]⟩ := by
  have hleft : run (Watchdog.round 60000) 6000 (w.found ++ [w.dev.radio.sawRx]) =
      Watchdog.round 60000 w.dev.radio.timeout.toNat w.dev.radio.sawRx := by
    rw [run_concat, h.timeout]
  have hearly : ∀ pre, pre <+: w.found ++ [w.dev.radio.sawRx] →
      pre ≠ w.found ++ [w.dev.radio.sawRx] → ¬Watchdog.Expired 6000 60000 pre := by
    intro pre hpre hne
    rcases List.prefix_concat_iff.mp hpre with heq | hle
    · exact absurd heq hne
    · exact h.live pre hle
  have hzero := Watchdog.run_eq_zero_iff (by decide) hearly
  rw [hleft] at hzero
  obtain ⟨hwarm, hkeep⟩ := rxloopSwitch_active (by rw [h.state]; exact hst) h.timeout_ne_zero
  constructor
  · intro hexp
    exact hwarm (hzero.mpr hexp)
  · intro hlive
    obtain ⟨hstate, htimeout⟩ := hkeep fun hz ↦ hlive (hzero.mp hz)
    constructor
    · exact hstate.trans h.state
    · exact htimeout.trans hleft.symm
    · intro pre hpre
      rcases List.prefix_concat_iff.mp hpre with rfl | hle
      · exact hlive
      · exact h.live pre hle

variable {b : Board σ} {app : App σ} {fuel : Nat} {st : UInt8}

/-- One event is one round, if it is a pass that gets to its `switch`, and none otherwise. -/
theorem Counting.step (happ : app.KeepsTimeout) (hst : LIBRADIO_STATE_ACTIVE ≤ st)
    {w : Watched σ} (h : w.Counting st) {e : Client.Event} (hkeep : w.KeepsState b app fuel e) :
    (w.step b app fuel e).Rounded st := by
  have hidle {w' : Watched σ} (hstation : w'.dev.radio.station = w.dev.radio.station)
      (hfound : w'.found = w.found) : w'.Rounded st := by
    apply Counting.rounded
    constructor
    · exact (congrArg Station.state hstation).trans h.state
    · rw [hfound, ← h.timeout]
      exact congrArg UInt16.toNat (congrArg Station.timeout hstation)
    · rw [hfound]
      exact h.live
  cases e with
  | tick =>
    exact hidle (Client.step_of_not_pass b app fuel w.dev (.inl rfl)).1 (List.append_nil _)
  | interrupt =>
    exact hidle (Client.step_of_not_pass b app fuel w.dev (.inr rfl)).1 (List.append_nil _)
  | pass ticks serial =>
    by_cases hwakes : Wakes serial w.dev.radio
    · have hstate := hkeep hwakes
      have htimeout := timeout_rxloopHandle b happ fuel ticks w.dev hstate
      have hhandled : Counting st
          ⟨rxloopHandle b app fuel ticks w.dev, w.found⟩ :=
        ⟨hstate.trans h.state, (congrArg UInt16.toNat htimeout).trans h.timeout, h.live⟩
      have hround := rounded_rxloopSwitch hst hhandled
      simpa only [Watched.step, Client.step, libradioRxloop_of_wakes b app fuel ticks hwakes,
        finds, if_pos hwakes] using hround
    · apply hidle
      · simp only [Watched.step, Client.step, libradioRxloop_of_not_wakes b app fuel ticks hwakes]
      · simp only [Watched.step, finds, if_neg hwakes, List.append_nil]

/-- The state is entered with the full countdown. -/
theorem rounded_enter (hst : LIBRADIO_STATE_ACTIVE ≤ st) (inside : Bool) {d : Dev σ}
    (h : Entered st d.radio) : (enter inside d).Rounded st := by
  have hcounting : Counting st ⟨d, []⟩ := by
    constructor
    · exact h.1
    · exact congrArg UInt16.toNat (h.timeout hst)
    · intro pre hpre hexp
      rw [List.prefix_nil.mp hpre] at hexp
      rcases hexp with ⟨before, quiet, heq, _⟩ | ⟨_, hlen⟩
      · simp at heq
      · exact absurd hlen (by decide)
  cases inside with
  | false => exact hcounting.rounded
  | true => exact rounded_rxloopSwitch hst hcounting

/-- In every run in which no command and no application call changes the state, a client in
ACTIVE or above keeps its state and a timeout that is not zero until 60000 passes have been made
from the latest one on that found `saw_rx` set, or 6000 since the state was entered if none did.
That pass takes it to WARM. -/
theorem warm_iff_expired (happ : app.KeepsTimeout) (hst : LIBRADIO_STATE_ACTIVE ≤ st)
    (inside : Bool) {d : Dev σ} (hentered : Entered st d.radio) (es : List Client.Event)
    (hkeep : Along (step b app fuel) (KeepsState b app fuel) (enter inside d) es)
    (hbefore : ∀ pre, pre <+: es → pre ≠ es →
      ¬(run (step b app fuel) (enter inside d) pre).Expired) :
    let w := run (step b app fuel) (enter inside d) es
    (w.Expired → w.dev.radio.state = LIBRADIO_STATE_WARM) ∧
      (¬w.Expired → w.dev.radio.state = st ∧ w.dev.radio.timeout ≠ 0) := by
  have hrounded : (run (step b app fuel) (enter inside d) es).Rounded st := by
    rcases List.eq_nil_or_concat es with rfl | ⟨pre, e, rfl⟩
    · exact rounded_enter hst inside hentered
    · rw [List.concat_eq_append] at hkeep hbefore ⊢
      rw [along_append, along_cons] at hkeep
      have hlive := (forall_prefix_iff (step b app fuel) (fun w ↦ ¬w.Expired) _ pre).mp
        fun early hearly ↦ hbefore early (hearly.trans (List.prefix_append pre [e])) fun heq ↦ by
          have hlen := hearly.length_le
          rw [heq, List.length_append, List.length_singleton] at hlen
          omega
      have hcounting : (run (step b app fuel) (enter inside d) pre).Counting st := by
        apply run_inv (G := fun w e ↦ w.KeepsState b app fuel e ∧ ¬(w.step b app fuel e).Expired)
        · intro w e hw hg
          exact (hw.step happ hst hg.1).counting hg.2
        · exact (rounded_enter hst inside hentered).counting hlive.1
        · exact (along_and _ _ _ _ _).mpr ⟨hkeep.1, hlive.2⟩
      rw [run_concat]
      exact hcounting.step happ hst hkeep.2.1
  intro w
  exact ⟨hrounded.expired, fun hlive ↦
    ⟨(hrounded.counting hlive).state, (hrounded.counting hlive).timeout_ne_zero⟩⟩

private theorem quiet_libradioSetState (st : UInt8) {r : Radio} (hirq : r.irqFired = 0)
    (hsaw : r.sawRx = false) :
    (libradioSetState st r).irqFired = 0 ∧ (libradioSetState st r).sawRx = false := by
  have hlisten (r : Radio) :
      (enterListen r).irqFired = r.irqFired ∧ (enterListen r).sawRx = false := by
    unfold enterListen
    dsimp only
    split <;> split <;> exact ⟨rfl, rfl⟩
  unfold libradioSetState
  split
  · exact ⟨hirq, hsaw⟩
  · dsimp only
    split
    · exact ⟨hirq, hsaw⟩
    · split
      · exact ⟨(hlisten _).1.trans hirq, (hlisten _).2⟩
      · split <;> exact ⟨hirq, hsaw⟩

private theorem quiet_rxloopSwitch {r : Radio} (hirq : r.irqFired = 0) (hsaw : r.sawRx = false) :
    (rxloopSwitch r).irqFired = 0 ∧ (rxloopSwitch r).sawRx = false := by
  unfold rxloopSwitch
  split
  · exact quiet_libradioSetState _ hirq hsaw
  · split
    · exact quiet_libradioSetState _ hirq hsaw
    · split
      · exact ⟨hirq, hsaw⟩
      · unfold rxloopActive
        simp only [hsaw, Bool.false_eq_true, if_false]
        split
        · exact quiet_libradioSetState _ hirq rfl
        · exact ⟨hirq, rfl⟩

private def pass : Client.Event := .pass 0 true

-- passes that no interrupt of the radio comes before find nothing
private theorem run_quiet (n : Nat) {w : Watched σ} (hirq : w.dev.radio.irqFired = 0)
    (hsaw : w.dev.radio.sawRx = false) :
    Along (step b app fuel) (KeepsState b app fuel) w (List.replicate n pass) ∧
      (run (step b app fuel) w (List.replicate n pass)).found =
        w.found ++ List.replicate n false := by
  induction n generalizing w with
  | zero => exact ⟨trivial, (List.append_nil _).symm⟩
  | succ n ih =>
    have hhandle : rxloopHandle b app fuel 0 w.dev =
        { w.dev with radio := { w.dev.radio with threadOk := false } } := by
      unfold rxloopHandle
      rw [if_neg (not_not_intro hirq)]
    have hwakes : Wakes true w.dev.radio := .inr (.inr rfl)
    have hdev : (w.step b app fuel pass).dev.radio =
        rxloopSwitch { w.dev.radio with threadOk := false } := by
      show (libradioRxloop b app fuel 0 true w.dev).radio = _
      rw [libradioRxloop_of_wakes b app fuel 0 hwakes, hhandle]
    have hfound : (w.step b app fuel pass).found = w.found ++ [false] := by
      show w.found ++ finds b app fuel w.dev (.pass 0 true) = _
      rw [finds, if_pos hwakes, hhandle]
      exact congrArg (fun x ↦ w.found ++ [x]) hsaw
    obtain ⟨hirq', hsaw'⟩ :=
      quiet_rxloopSwitch (r := { w.dev.radio with threadOk := false }) hirq hsaw
    obtain ⟨halong, hrun⟩ := ih (hdev ▸ hirq') (hdev ▸ hsaw')
    rw [List.replicate_succ]
    refine ⟨⟨fun _ ↦ ?_, halong⟩, ?_⟩
    · rw [hhandle]
    · rw [run_cons, hrun, hfound, List.append_assoc]
      rfl

private def activated (saw : Bool) : Dev Nat := { Client.powerOn 0 with
  radio := { libradioSetState LIBRADIO_STATE_ACTIVE Radio.zero with sawRx := saw } }

private theorem entered_activated (saw : Bool) :
    Entered LIBRADIO_STATE_ACTIVE (activated saw).radio := by
  have h : Entered LIBRADIO_STATE_ACTIVE (libradioSetState LIBRADIO_STATE_ACTIVE Radio.zero) :=
    entered_libradioSetState (by decide)
  exact ⟨h.1, h.2⟩

private theorem prefix_quiet {pre : List Client.Event} {n : Nat}
    (h : pre <+: List.replicate n pass) (hne : pre ≠ List.replicate n pass) :
    ∃ k, k < n ∧ pre = List.replicate k pass := by
  obtain ⟨hle, heq⟩ := List.prefix_replicate_iff.mp h
  refine ⟨pre.length, Nat.lt_of_le_of_ne hle fun hn ↦ hne ?_, heq⟩
  rw [heq, hn]

/-- A client that has been activated and finds nothing goes to WARM in the 6000th pass; one that has
found something in the pass of its activation is still active then. -/
theorem warm_iff_expired_sixThousand :
    (run (step (Client.feed [] true) Client.idleApp 0) (enter false (activated false))
        (List.replicate 6000 pass)).dev.radio.state = LIBRADIO_STATE_WARM ∧
      let w := run (step (Client.feed [] true) Client.idleApp 0) (enter true (activated true))
        (List.replicate 6000 pass)
      w.dev.radio.state = LIBRADIO_STATE_ACTIVE ∧ w.dev.radio.timeout ≠ 0 := by
  have hexpired (n : Nat) : Watchdog.Expired 6000 60000 (List.replicate n false) ↔ n = 6000 := by
    constructor
    · rintro (⟨before, quiet, heq, -⟩ | ⟨-, hlen⟩)
      · have hmem : true ∈ List.replicate n false := heq ▸ by simp
        simp at hmem
      · rwa [List.length_replicate] at hlen
    · rintro rfl
      exact .inr ⟨fun hmem ↦ Bool.noConfusion (List.eq_of_mem_replicate hmem),
        List.length_replicate⟩
  have hfed (n : Nat) (hn : n ≤ 6000) :
      ¬ Watchdog.Expired 6000 60000 (true :: List.replicate n false) := by
    rintro (⟨before, quiet, heq, hquiet, hlen⟩ | ⟨hno, -⟩)
    · have hall := congrArg List.length heq
      simp only [List.length_cons, List.length_replicate, List.length_append] at hall
      omega
    · exact hno List.mem_cons_self
  have hunfed (n : Nat) := @run_quiet _ (Client.feed [] true) Client.idleApp 0 n
    (enter false (activated false)) (by decide) (by decide)
  have hseen (n : Nat) := @run_quiet _ (Client.feed [] true) Client.idleApp 0 n
    (enter true (activated true)) (by decide) (by decide)
  constructor
  · refine (warm_iff_expired keepsTimeout_idleApp (by decide) false (entered_activated false) _
      (hunfed 6000).1 fun pre hpre hne ↦ ?_).1 ?_
    · obtain ⟨k, hk, rfl⟩ := prefix_quiet hpre hne
      rw [Expired, (hunfed k).2]
      exact fun h ↦ absurd ((hexpired k).mp h) (Nat.ne_of_lt hk)
    · rw [Expired, (hunfed 6000).2]
      exact (hexpired 6000).mpr rfl
  · refine (warm_iff_expired keepsTimeout_idleApp (by decide) true (entered_activated true) _
      (hseen 6000).1 fun pre hpre hne ↦ ?_).2 ?_
    · obtain ⟨k, hk, rfl⟩ := prefix_quiet hpre hne
      rw [Expired, (hseen k).2]
      exact hfed k (Nat.le_of_lt hk)
    · rw [Expired, (hseen 6000).2]
      exact hfed 6000 (Nat.le_refl _)

end Watched

end Libradio
