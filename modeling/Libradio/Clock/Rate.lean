import Libradio.Client.Pass
import Libradio.Client.Start

/-!
# The clock rate of a client

`libradio_power_mode` selects the prescaler of the timer and the period that a clock interrupt
counts for, and `libradio_set_state` calls it on the way into most states. Whether the rate fits
the state depends on the states taken before.
-/

namespace Libradio
open Libradio.Base

variable {σ : Type}

/-! ### States and rates -/

/-- The state of a client and the variables that have to do with its clock rate. -/
structure Rate where
  state : UInt8
  period : UInt8
  fastPeriod : UInt8
  slowPeriod : UInt8
  prescaler : Prescaler
  deriving DecidableEq, Repr

namespace Rate

/-- The fast clock is selected. -/
def IsFast (q : Rate) : Prop := q.prescaler = .div64 ∧ q.period = q.fastPeriod

/-- The slow clock is selected. -/
def IsSlow (q : Rate) : Prop := q.prescaler = .div1024 ∧ q.period = q.slowPeriod

/-- One of the two clocks is selected. -/
def power (hiFlag : Bool) (q : Rate) : Rate :=
  if hiFlag then { q with period := q.fastPeriod, prescaler := .div64 }
  else { q with period := q.slowPeriod, prescaler := .div1024 }

/-- The clock that is selected on the way into a state. -/
def enter (newState : UInt8) (q : Rate) : Rate :=
  if newState = LIBRADIO_STATE_COLD ∨ newState = LIBRADIO_STATE_WARM then q.power false
  else if newState = LIBRADIO_STATE_LISTEN then
    if q.state = LIBRADIO_STATE_COLD ∨ q.state = LIBRADIO_STATE_WARM then q.power true else q
  else if newState = LIBRADIO_STATE_ERROR then q
  else q.power true

/-- A change of the state. -/
def set (newState : UInt8) (q : Rate) : Rate :=
  if newState ≠ LIBRADIO_STATE_STARTUP ∧ q.state = newState then q
  else { q.enter newState with state := newState }

/-- The prescaler and the period are those of one of the two clocks, of the slow one in COLD and
WARM, and of the fast one in LISTEN and from ACTIVE on. -/
structure Matches (q : Rate) : Prop where
  together : q.IsFast ∨ q.IsSlow
  slow : q.state = LIBRADIO_STATE_COLD ∨ q.state = LIBRADIO_STATE_WARM → q.IsSlow
  fast : q.state = LIBRADIO_STATE_LISTEN ∨ LIBRADIO_STATE_ACTIVE ≤ q.state → q.IsFast

/-- The same, with the fast clock in every state but COLD, WARM and ERROR. -/
structure Paced (q : Rate) : Prop where
  together : q.IsFast ∨ q.IsSlow
  slow : q.state = LIBRADIO_STATE_COLD ∨ q.state = LIBRADIO_STATE_WARM → q.IsSlow
  fast : ¬ (q.state = LIBRADIO_STATE_COLD ∨ q.state = LIBRADIO_STATE_WARM) →
    q.state ≠ LIBRADIO_STATE_ERROR → q.IsFast

private theorem Paced.matches {q : Rate} (h : q.Paced) : q.Matches := by
  constructor
  · exact h.together
  · exact h.slow
  · intro hstate
    apply h.fast
    · rintro (heq | heq)
      · rw [heq] at hstate
        exact absurd hstate (by decide)
      · rw [heq] at hstate
        exact absurd hstate (by decide)
    · intro heq
      rw [heq] at hstate
      exact absurd hstate (by decide)

/-- The client is told to listen in ERROR while its clock is slow. -/
def StaysSlow (q : Rate) (newState : UInt8) : Prop :=
  newState = LIBRADIO_STATE_LISTEN ∧ q.state = LIBRADIO_STATE_ERROR ∧ q.prescaler = .div1024

instance (q : Rate) (newState : UInt8) : Decidable (q.StaysSlow newState) :=
  inferInstanceAs (Decidable (_ ∧ _))

/-- The slow clock is selected in COLD and WARM. -/
theorem paced_slow (q : Rate) {newState : UInt8}
    (h : newState = LIBRADIO_STATE_COLD ∨ newState = LIBRADIO_STATE_WARM) :
    ({ q.power false with state := newState } : Rate).Paced where
  together := .inr ⟨rfl, rfl⟩
  slow _ := ⟨rfl, rfl⟩
  fast hno := absurd h hno

/-- A fast clock fits every other state. -/
theorem paced_fast {q : Rate} (hfast : q.IsFast) {newState : UInt8}
    (h : ¬ (newState = LIBRADIO_STATE_COLD ∨ newState = LIBRADIO_STATE_WARM)) :
    ({ q with state := newState } : Rate).Paced where
  together := .inl hfast
  slow hsleep := absurd hsleep h
  fast _ _ := hfast

/-- Every other change of the state keeps the rate in step with the state. -/
theorem Paced.set {q : Rate} (h : q.Paced) {newState : UInt8} (hno : ¬ q.StaysSlow newState) :
    (q.set newState).Paced := by
  unfold Rate.set
  split
  · exact h
  · unfold enter
    by_cases hsleep : newState = LIBRADIO_STATE_COLD ∨ newState = LIBRADIO_STATE_WARM
    · rw [if_pos hsleep]
      exact paced_slow q hsleep
    · rw [if_neg hsleep]
      by_cases hlisten : newState = LIBRADIO_STATE_LISTEN
      · rw [if_pos hlisten]
        by_cases hslept : q.state = LIBRADIO_STATE_COLD ∨ q.state = LIBRADIO_STATE_WARM
        · rw [if_pos hslept]
          exact paced_fast ⟨rfl, rfl⟩ hsleep
        · rw [if_neg hslept]
          apply paced_fast _ hsleep
          by_cases herror : q.state = LIBRADIO_STATE_ERROR
          · rcases h.together with hfast | hslow
            · exact hfast
            · exact absurd ⟨hlisten, herror, hslow.1⟩ hno
          · exact h.fast hslept herror
      · rw [if_neg hlisten]
        by_cases herror : newState = LIBRADIO_STATE_ERROR
        · rw [if_pos herror]
          constructor
          · exact h.together
          · exact fun hslept ↦ absurd hslept hsleep
          · exact fun _ hne ↦ absurd herror hne
        · rw [if_neg herror]
          exact paced_fast ⟨rfl, rfl⟩ hsleep

/-- That one leaves the client listening with a slow clock. -/
theorem StaysSlow.not_matches {q : Rate} {newState : UInt8} (h : q.StaysSlow newState) :
    ¬ (q.set newState).Matches := by
  obtain ⟨rfl, herror, hslow⟩ := h
  have hset : q.set LIBRADIO_STATE_LISTEN = { q with state := LIBRADIO_STATE_LISTEN } := by
    unfold Rate.set enter
    rw [herror]
    rfl
  rw [hset]
  intro hmatches
  have hfast := (hmatches.fast (.inl rfl)).1
  exact Prescaler.noConfusion (hslow.symm.trans hfast)

end Rate

/-! ### The library -/

/-- The clock rate of a radio. -/
def Radio.rate (r : Radio) : Rate :=
  ⟨r.state, r.period, r.fastPeriod, r.slowPeriod, r.prescaler⟩

private theorem rate_enterListen (r : Radio) :
    (enterListen r).rate =
      if r.state = LIBRADIO_STATE_COLD ∨ r.state = LIBRADIO_STATE_WARM then r.rate.power true
      else r.rate := by
  unfold enterListen
  dsimp only
  by_cases hslept : r.state = LIBRADIO_STATE_COLD ∨ r.state = LIBRADIO_STATE_WARM
  · simp only [if_pos hslept]
    split
    · rfl
    · rfl
  · simp only [if_neg hslept]
    split
    · rfl
    · rfl

/-- `libradio_set_state` looks at nothing else to select the rate. -/
theorem rate_libradioSetState (newState : UInt8) (r : Radio) :
    (libradioSetState newState r).rate = r.rate.set newState := by
  have hstate : r.rate.state = r.state := rfl
  unfold libradioSetState Rate.set
  rw [hstate]
  by_cases hsame : newState ≠ LIBRADIO_STATE_STARTUP ∧ r.state = newState
  · rw [if_pos hsame, if_pos hsame]
  · rw [if_neg hsame, if_neg hsame]
    have henter (q : Radio) (hq : q.rate = r.rate.enter newState) :
        ({ q with state := newState } : Radio).rate =
          { r.rate.enter newState with state := newState } := by
      rw [← hq]
      rfl
    apply henter
    unfold Rate.enter
    by_cases hsleep : newState = LIBRADIO_STATE_COLD ∨ newState = LIBRADIO_STATE_WARM
    · rw [if_pos hsleep, if_pos hsleep]
      rfl
    · rw [if_neg hsleep, if_neg hsleep]
      by_cases hlisten : newState = LIBRADIO_STATE_LISTEN
      · rw [if_pos hlisten, if_pos hlisten]
        exact rate_enterListen (libradioSetSong newState r)
      · rw [if_neg hlisten, if_neg hlisten]
        by_cases herror : newState = LIBRADIO_STATE_ERROR
        · rw [if_pos herror, if_pos herror]
          rfl
        · rw [if_neg herror, if_neg herror]
          rfl

private theorem rate_untimed (r : Radio) : r.untimed.rate = r.rate := rfl

/-- A clock interrupt leaves the rate alone. -/
@[simp] theorem rate_clocktick (r : Radio) : (clocktick r).rate = r.rate := by
  rw [← rate_untimed, untimed_clocktick, rate_untimed]

/-- So do any number of them. -/
@[simp] theorem rate_clockticks (n : Nat) (r : Radio) : (clockticks n r).rate = r.rate := by
  rw [← rate_untimed, untimed_clockticks, rate_untimed]

/-- Questions to the radio leave the rate alone. -/
theorem Asked.rate {R : σ → σ → Prop} {d d' : Dev σ} (h : Asked R d d') :
    d'.radio.rate = d.radio.rate := by
  have hown (r : Radio) : r.own.rate = r.rate := rfl
  rw [← hown, h.radio, hown]

/-- A state other than LISTEN can be set at any time. -/
theorem paced_libradioSetState {r : Radio} (h : r.rate.Paced) {newState : UInt8}
    (hne : newState ≠ LIBRADIO_STATE_LISTEN) : (libradioSetState newState r).rate.Paced := by
  rw [rate_libradioSetState]
  exact h.set fun hslow ↦ hne hslow.1

section Library

variable {b : Board σ} {d : Dev σ}

private theorem paced_libradioPowerUp (h : d.radio.rate.Paced) :
    (libradioPowerUp b d).1.radio.rate.Paced := by
  cases poweredUp_libradioPowerUp b.keeps_true d with
  | already active eq =>
    rw [eq]
    exact h
  | done asleep ok asked =>
    rw [asked.rate]
    exact h
  | failed asleep ok asked =>
    rw [asked.rate]
    exact paced_libradioSetState h (by decide)

private theorem paced_libradioRecvStart (h : d.radio.rate.Paced) :
    (libradioRecvStart b d).1.radio.rate.Paced := by
  have hup := paced_libradioPowerUp (b := b) h
  unfold libradioRecvStart
  dsimp only
  split
  · exact hup
  · exact hup

private theorem rate_transmitFrame (chp : Channel) (channo : UInt8) :
    (transmitFrame b 0 d chp channo).dev.radio.rate = d.radio.rate := by
  unfold transmitFrame libradioTxpacket
  dsimp only
  split
  · rw [if_neg Bool.false_ne_true]
  · rw [if_pos rfl]
    dsimp only
    split
    · rfl
    · rfl

private theorem paced_libradioSend (h : d.radio.rate.Paced) (chp : Channel) (channo : UInt8) :
    (libradioSend b 0 d chp channo).dev.radio.rate.Paced := by
  have hup := paced_libradioPowerUp (b := b) h
  unfold libradioSend
  dsimp only
  split
  · have hstatus := (asked_libradioRequestDeviceStatus b.keeps_true (libradioPowerUp b d).1).rate
    split
    · rw [hstatus]
      exact hup
    · have hspace := (asked_libradioGetFifoInfo b.keeps_true 0
        (libradioRequestDeviceStatus b (libradioPowerUp b d).1).1).rate
      unfold libradioCheckTx
      dsimp only
      split
      · rw [rate_transmitFrame, hspace, hstatus]
        exact hup
      · rw [hspace, hstatus]
        exact hup
  · exact hup

private theorem paced_libradioSendResponse (h : d.radio.rate.Paced) (fuel : Nat)
    (cmd chan addr len : UInt8) (buffer : Nat → UInt8) :
    (libradioSendResponse b fuel cmd chan addr len buffer d).radio.rate.Paced := by
  unfold libradioSendResponse
  dsimp only
  generalize (⟨.transmit, 10, _⟩ : Channel) = chp
  have hsend := paced_libradioSend (b := b) (d := { d with txchan := chp }) h chp chan
  generalize libradioSend b 0 { d with txchan := chp } chp chan = r at hsend ⊢
  generalize (if r.ok = true then _ else _ : Channel) = chp'
  apply paced_libradioRecvStart
  rw [(asked_waitTransmitted b.keeps_true fuel { r.dev with txchan := chp' }).rate]
  exact hsend

end Library

/-- The callbacks leave the rate alone: the calls of `libradio_set_state` that the application
makes are steps of their own. -/
structure App.LeavesRate (app : App σ) : Prop where
  operate : ∀ p d, (app.operate p d).radio.rate = d.radio.rate
  fetchStatus : ∀ i d, (app.fetchStatus i d).1.radio.rate = d.radio.rate

section Pass

variable {b : Board σ} {app : App σ} {d : Dev σ}

private theorem paced_libradioCommand (happ : app.LeavesRate) (h : d.radio.rate.Paced) (fuel : Nat)
    (p : Packet) : (libradioCommand b app fuel p d).radio.rate.Paced := by
  cases executed_libradioCommand b app fuel p d with
  | nothing act deact request eq =>
    rw [eq]
    exact h
  | activated act eq =>
    rw [eq]
    exact paced_libradioSetState
      (r := { d.radio with myChannel := dataByte p.data 0, myNodeId := dataByte p.data 1 }) h
      (by decide)
  | deactivated deact eq =>
    rw [eq]
    exact paced_libradioSetState (r := { d.radio with myChannel := 0, myNodeId := 0 }) h
      (by decide)
  | setTime active cmd len eq =>
    rw [eq]
    exact h
  | setDate active cmd len eq =>
    rw [eq]
    exact h
  | silent active cmd len none eq =>
    rw [eq, happ.fetchStatus]
    exact h
  | status active cmd len some eq =>
    rw [eq]
    apply paced_libradioSendResponse
    rw [happ.fetchStatus]
    exact h
  | readEeprom buffer addr active cmd len eq =>
    rw [eq]
    exact paced_libradioSendResponse (d := { d with statusbuffer := buffer }) h _ _ _ _ _ _
  | writeEeprom eeprom active cmd eq =>
    rw [eq]
    exact h
  | operate active cmd eq =>
    rw [eq, happ.operate]
    exact h

private theorem rate_rearm (r : Radio) : r.rearm.rate = r.rate := by
  unfold Radio.rearm
  split
  · rfl
  · rfl

private theorem rate_accept (p : Packet) (r : Radio) : (r.accept p).rate = r.rate := by
  unfold Radio.accept Radio.hear
  split
  · rfl
  · rfl

/-- A reception leaves the rate alone. -/
theorem rate_libradioRecv (p : Packet) (channo : UInt8) :
    (libradioRecv b d p channo).dev.radio.rate = d.radio.rate := by
  have hrecv : Reception (fun _ _ ↦ True) b d p (libradioRecv b d p channo) :=
    reception_libradioRecv b.keeps_true (fun _ ↦ trivial) d p
  cases hrecv with
  | nothing ok packet few asked => exact asked.rate
  | damaged ok many packet sum asked => exact asked.rate.trans (rate_rearm d.radio)
  | good ok many packet sum asked =>
    exact asked.rate.trans ((rate_rearm _).trans (rate_accept _ d.radio))

/-- A reception leaves the rate alone. -/
theorem rate_afterRecv (ticks : Nat) : (afterRecv b ticks d).radio.rate = d.radio.rate := by
  unfold afterRecv
  dsimp only
  rw [rate_clockticks, rate_libradioRecv]

private theorem paced_libradioHandlePacket (happ : app.LeavesRate) (h : d.radio.rate.Paced)
    (fuel ticks : Nat) : (libradioHandlePacket b app fuel ticks d).radio.rate.Paced := by
  have hafter : (afterRecv b ticks d).radio.rate.Paced := by
    rw [rate_afterRecv]
    exact h
  rw [libradioHandlePacket_eq]
  split
  · exact paced_libradioCommand happ hafter fuel _
  · exact hafter

private theorem paced_rxloopHandle (happ : app.LeavesRate) (h : d.radio.rate.Paced)
    (fuel ticks : Nat) :
    (rxloopHandle b app fuel ticks d).radio.rate.Paced := by
  unfold rxloopHandle
  dsimp only
  split
  · unfold rxloopReceive
    dsimp only
    apply paced_libradioHandlePacket happ
    exact h
  · exact h

private theorem paced_rxloopActive {r : Radio} (h : r.rate.Paced) :
    (rxloopActive r).rate.Paced := by
  unfold rxloopActive
  have hrewound : (if r.sawRx = true then { r with timeout := 60000, sawRx := false }
      else r).rate = r.rate := by
    split
    · rfl
    · rfl
  generalize (if r.sawRx = true then _ else r : Radio) = q at hrewound ⊢
  have hcounted : ({ q with timeout := q.timeout - 1 } : Radio).rate.Paced := by
    show q.rate.Paced
    rw [hrewound]
    exact h
  dsimp only
  split
  · exact paced_libradioSetState hcounted (by decide)
  · exact hcounted

/-- The `switch` goes to LISTEN from where it may. -/
theorem paced_rxloopSwitch {r : Radio} (h : r.rate.Paced) : (rxloopSwitch r).rate.Paced := by
  unfold rxloopSwitch
  split
  · exact paced_libradioSetState h (by decide)
  · next herror =>
    split
    · rw [rate_libradioSetState]
      apply h.set
      intro hslow
      exact herror hslow.2.1
    · split
      · exact h
      · exact paced_rxloopActive h

private theorem paced_libradioRxloop (happ : app.LeavesRate) (h : d.radio.rate.Paced)
    (fuel ticks : Nat) (serial : Bool) :
    (libradioRxloop b app fuel ticks serial d).radio.rate.Paced := by
  unfold libradioRxloop
  split
  · apply paced_rxloopSwitch
    exact paced_rxloopHandle happ h fuel ticks
  · exact h

end Pass

namespace Client

/-- What happens to a client: an application that sets a state, or one of the other events. -/
inductive RateEvent
  | setState (newState : UInt8)
  | event (e : Event)
  deriving DecidableEq, Repr

/-- One of them. -/
def rateStep (b : Board σ) (app : App σ) (fuel : Nat) (d : Dev σ) : RateEvent → Dev σ
  | .setState newState => { d with radio := libradioSetState newState d.radio }
  | .event e => step b app fuel d e

/-- The application calls for LISTEN in ERROR while the clock is slow. -/
def ListensSlow (d : Dev σ) : RateEvent → Prop
  | .setState newState => d.radio.rate.StaysSlow newState
  | .event _ => False

section Runs

variable {b : Board σ} {app : App σ}

/-- One step keeps the pace. -/
theorem paced_rateStep (happ : app.LeavesRate) (fuel : Nat) (d : Dev σ) (e : RateEvent)
    (h : d.radio.rate.Paced) (hno : ¬ ListensSlow d e) :
    (rateStep b app fuel d e).radio.rate.Paced := by
  cases e with
  | setState newState =>
    unfold rateStep
    dsimp only
    rw [rate_libradioSetState]
    exact h.set hno
  | event e =>
    cases e with
    | tick =>
      unfold rateStep step
      dsimp only
      rw [rate_clocktick]
      exact h
    | interrupt =>
      unfold rateStep step
      dsimp only
      split
      · exact h
      · exact h
    | pass ticks serial => exact paced_libradioRxloop happ h fuel ticks serial

/-- A client that was initialised, with the clock periods that `libradio_init` sets or with
others that the application sets right after it. -/
def initialised (b : Board σ) (id : Identity) (clock : Option (UInt8 × UInt8)) (d : Dev σ) :
    Dev σ :=
  match clock with
  | none => libradioInit b id.cat1 id.cat2 id.num1 id.num2 d
  | some (fast, slow) => prepared b id fast slow d

private theorem paced_initialised (id : Identity) (clock : Option (UInt8 × UInt8)) (d : Dev σ) :
    (initialised b id clock d).radio.rate.Paced := by
  have hinit : (libradioInit b id.cat1 id.cat2 id.num1 id.num2 d).radio.rate =
      ⟨LIBRADIO_STATE_STARTUP, 1, 1, 16, .div64⟩ := by
    unfold libradioInit
    dsimp only
    rw [(asked_libradioGetFifoInfo b.keeps_true 3 _).rate]
    rfl
  have hstartup : ¬ (LIBRADIO_STATE_STARTUP = LIBRADIO_STATE_COLD ∨
      LIBRADIO_STATE_STARTUP = LIBRADIO_STATE_WARM) := by decide
  cases clock with
  | none =>
    show (libradioInit b id.cat1 id.cat2 id.num1 id.num2 d).radio.rate.Paced
    rw [hinit]
    exact Rate.paced_fast (q := ⟨LIBRADIO_STATE_STARTUP, 1, 1, 16, .div64⟩) ⟨rfl, rfl⟩ hstartup
  | some periods =>
    obtain ⟨fast, slow⟩ := periods
    have hclock (r : Radio) : (libradioSetClock fast slow r).rate =
        ⟨r.rate.state, fast, fast, slow, r.rate.prescaler⟩ := rfl
    show (prepared b id fast slow d).radio.rate.Paced
    unfold prepared
    dsimp only
    rw [hclock, hinit]
    exact Rate.paced_fast (q := ⟨LIBRADIO_STATE_STARTUP, fast, fast, slow, .div64⟩) ⟨rfl, rfl⟩
      hstartup

/-- In every run of a client the prescaler and the period belong together and fit the state after
every step exactly if the application never calls for LISTEN in ERROR with a slow clock, which
is the one that COLD or WARM has left. -/
theorem rate_matches_iff (happ : app.LeavesRate) (fuel : Nat) (id : Identity)
    (clock : Option (UInt8 × UInt8)) (d : Dev σ) (es : List RateEvent) :
    (∀ pre, pre <+: es →
        (run (rateStep b app fuel) (initialised b id clock d) pre).radio.rate.Matches) ↔
      Along (rateStep b app fuel) (fun d e ↦ ¬ ListensSlow d e) (initialised b id clock d) es := by
  have hstart := paced_initialised (b := b) id clock d
  rw [forall_prefix_iff (rateStep b app fuel) fun d ↦ d.radio.rate.Matches, and_iff_right
    hstart.matches]
  refine along_iff_of_inv _ (I := fun d ↦ d.radio.rate.Paced) ?_ ?_ hstart
  · exact fun d e h hno ↦ paced_rateStep happ fuel d e h hno
  · intro d e h
    constructor
    · intro hmatches hslow
      cases e with
      | setState newState =>
        refine hslow.not_matches ?_
        rw [← rate_libradioSetState]
        exact hmatches
      | event e => exact hslow
    · intro hno
      exact (paced_rateStep happ fuel d e h hno).matches

end Runs

private theorem leavesRate_idleApp : (idleApp : App σ).LeavesRate := ⟨fun _ _ ↦ rfl, fun _ _ ↦ rfl⟩

/-- A client that sleeps and is told to listen, with the periods of `libradio_init`. -/
theorem rate_matches_listening :
    (run (rateStep (feed [] true) idleApp 1) (initialised (feed [] true) ⟨1, 2, 3, 4⟩ none
      (powerOn 0)) [.setState LIBRADIO_STATE_WARM, .setState LIBRADIO_STATE_LISTEN]
      ).radio.rate.Matches :=
  (rate_matches_iff leavesRate_idleApp 1 ⟨1, 2, 3, 4⟩ none (powerOn 0)
    [.setState LIBRADIO_STATE_WARM, .setState LIBRADIO_STATE_LISTEN]).mpr
    ⟨fun h ↦ absurd h.1 (by decide), fun h ↦ absurd h.2.1 (by decide), trivial⟩ _
    List.prefix_rfl

/-- One that goes to ERROR from WARM and is told to listen then keeps the slow clock. -/
theorem not_rate_matches_error :
    ¬ (run (rateStep (feed [] true) idleApp 1) (initialised (feed [] true) ⟨1, 2, 3, 4⟩ none
      (powerOn 0)) [.setState LIBRADIO_STATE_WARM, .setState LIBRADIO_STATE_ERROR,
        .setState LIBRADIO_STATE_LISTEN]).radio.rate.Matches := by
  intro h
  have hfast := (h.fast (.inl (by decide))).1
  exact absurd hfast (by decide)

end Client

end Libradio
