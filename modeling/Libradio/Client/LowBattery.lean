import Libradio.Client.Isolation
import Libradio.Client.Pass
import Libradio.Clock.Rate

/-!
# The low battery state

A client that its application puts into LOW_BATTERY is to stay there, with its clock as it is and
whatever it receives. `libradio_set_state` and `libradio_rxloop` treat the state as one of the
active ones, and an activation is executed in every state.
-/

namespace Libradio
open Libradio.Base

variable {σ : Type}

/-- The application puts the client into LOW_BATTERY. -/
def Client.lowBattery (d : Dev σ) : Dev σ :=
  { d with radio := libradioSetState LIBRADIO_STATE_LOW_BATTERY d.radio }

/-- The pass leaves the state and the clock rate alone, and the packet that it takes has no
effect as a command. -/
structure Respects (b : Board σ) (app : App σ) (fuel ticks : Nat) (serial : Bool) (d : Dev σ) :
    Prop where
  rate : (libradioRxloop b app fuel ticks serial d).radio.rate = d.radio.rate
  ignores : ∀ p, Client.accepted b d = some p →
    libradioCommand b app fuel p (Client.handed b ticks d) = Client.handed b ticks d

/-- The pass takes no activation of the client, and its timeout does not run out. -/
structure Undisturbed (b : Board σ) (serial : Bool) (d : Dev σ) : Prop where
  inactive : ∀ p, Client.accepted b d = some p → ¬ IsActivation d.radio p
  timeout : Wakes serial d.radio →
    d.radio.sawRx = true ∨ Client.hears b d = true ∨ d.radio.timeout ≠ 1

namespace Client

/-- What is asked of a step: that a pass respects the state. -/
def RespectsLow (b : Board σ) (app : App σ) (fuel : Nat) (d : Dev σ) : Event → Prop
  | .pass ticks serial => Respects b app fuel ticks serial d
  | _ => True

/-- The condition on a step: that a pass is not disturbed. -/
def UndisturbedLow (b : Board σ) (d : Dev σ) : Event → Prop
  | .pass _ serial => Undisturbed b serial d
  | _ => True

end Client

section Pass

variable {b : Board σ} {d : Dev σ}

/-- The device as a command gets it. -/
theorem rate_handed (ticks : Nat) : (Client.handed b ticks d).radio.rate = d.radio.rate := by
  unfold Client.handed
  rw [rate_afterRecv]
  rfl

private theorem station_handed (ticks : Nat) (hirq : d.radio.irqFired ≠ 0) :
    (Client.handed b ticks d).radio.station = d.radio.station :=
  (handed_spec b.keeps_true ticks hirq fun _ ↦ trivial).1

/-- Below ACTIVE a packet that is no activation has no effect as a command. -/
theorem libradioCommand_handed (app : App σ) (fuel ticks : Nat)
    (hstate : d.radio.state < LIBRADIO_STATE_ACTIVE) (hirq : d.radio.irqFired ≠ 0) {p : Packet}
    (hact : ¬ IsActivation d.radio p) :
    libradioCommand b app fuel p (Client.handed b ticks d) = Client.handed b ticks d := by
  have hstation := station_handed (b := b) ticks hirq
  apply libradioCommand_of_not_isActivation
  · rw [show (Client.handed b ticks d).radio.state = d.radio.state from
      congrArg Station.state hstation]
    exact hstate
  · rw [isActivation_station hstation]
    exact hact

/-- Below ACTIVE a pass without an activation only receives. -/
theorem rxloopHandle_inactive (app : App σ) (fuel ticks : Nat)
    (hstate : d.radio.state < LIBRADIO_STATE_ACTIVE)
    (hact : ∀ p, Client.accepted b d = some p → ¬ IsActivation d.radio p) :
    let e := rxloopHandle b app fuel ticks d
    e.radio.rate = d.radio.rate ∧ e.radio.timeout = d.radio.timeout ∧
      e.radio.sawRx = (d.radio.sawRx || Client.hears b d) := by
  by_cases hirq : d.radio.irqFired ≠ 0
  · obtain ⟨hstation, hsaw, -⟩ := handed_spec b.keeps_true ticks hirq fun _ ↦ trivial
    have hkept : (Client.accepted b d).elim (Client.handed b ticks d)
        (fun p ↦ libradioCommand b app fuel p (Client.handed b ticks d)) =
          Client.handed b ticks d := by
      cases haccepted : Client.accepted b d with
      | none => rfl
      | some p => exact libradioCommand_handed app fuel ticks hstate hirq (hact p haccepted)
    rw [rxloopHandle_of_irq b app fuel ticks hirq, hkept]
    exact ⟨rate_handed ticks, congrArg Station.timeout hstation, hsaw⟩
  · unfold rxloopHandle
    rw [if_neg hirq, (accepted_of_not_irq hirq).2, Bool.or_false]
    exact ⟨rfl, rfl, rfl⟩

/-- In LOW_BATTERY the `switch` counts the timeout. -/
theorem rxloopSwitch_lowBattery {r : Radio} (h : r.state = LIBRADIO_STATE_LOW_BATTERY) :
    rxloopSwitch r = rxloopActive r := by
  unfold rxloopSwitch
  rw [h, if_neg (by decide), if_neg (by decide), if_neg (by decide)]

private theorem rate_rxloopActive {r : Radio} (h : r.sawRx = true ∨ r.timeout ≠ 1) :
    (rxloopActive r).rate = r.rate := by
  have hrate (timeout : UInt16) (sawRx : Bool) :
      ({ r with timeout := timeout, sawRx := sawRx } : Radio).rate = r.rate := rfl
  unfold rxloopActive
  dsimp only
  by_cases hsaw : r.sawRx = true
  · have hlong : ¬ (60000 : UInt16) - 1 = 0 := by decide
    rw [if_pos hsaw, if_neg hlong]
    exact hrate _ _
  · have hmore : ¬ r.timeout - 1 = 0 := by
      intro hover
      have hone : r.timeout = 1 := by grind
      exact (h.resolve_left hsaw) hone
    rw [if_neg hsaw, if_neg hmore]
    exact hrate _ _

private theorem state_rxloopActive {r : Radio} (hsaw : ¬ r.sawRx = true)
    (htimeout : r.timeout = 1) :
    (rxloopActive r).state = LIBRADIO_STATE_WARM := by
  unfold rxloopActive
  dsimp only
  have hover : r.timeout - 1 = 0 := by
    rw [htimeout]
    rfl
  rw [if_neg hsaw, if_pos hover, state_libradioSetState]

/-- A pass that is not disturbed respects the state. -/
theorem Undisturbed.respects {serial : Bool} (h : Undisturbed b serial d) (app : App σ)
    (fuel ticks : Nat) (hstate : d.radio.state = LIBRADIO_STATE_LOW_BATTERY) :
    Respects b app fuel ticks serial d := by
  have hinactive : d.radio.state < LIBRADIO_STATE_ACTIVE := by
    rw [hstate]
    decide
  constructor
  · by_cases hwakes : Wakes serial d.radio
    · obtain ⟨hrate, htimeout, hsaw⟩ :=
        rxloopHandle_inactive app fuel ticks hinactive h.inactive
      rw [libradioRxloop_of_wakes b app fuel ticks hwakes]
      dsimp only
      have hlow : (rxloopHandle b app fuel ticks d).radio.state = LIBRADIO_STATE_LOW_BATTERY :=
        (congrArg Rate.state hrate).trans hstate
      rw [rxloopSwitch_lowBattery hlow, rate_rxloopActive, hrate]
      rw [hsaw, htimeout, Bool.or_eq_true, or_assoc]
      exact h.timeout hwakes
    · rw [libradioRxloop_of_not_wakes b app fuel ticks hwakes]
  · intro p hp
    exact libradioCommand_handed app fuel ticks hinactive (irqFired_of_accepted hp)
      (h.inactive p hp)

/-- A pass that takes an activation executes it, and one on which the timeout runs out goes to
WARM. -/
theorem Respects.undisturbed {app : App σ} {fuel ticks : Nat} {serial : Bool}
    (h : Respects b app fuel ticks serial d)
    (hstate : d.radio.state = LIBRADIO_STATE_LOW_BATTERY) : Undisturbed b serial d := by
  have hinactive : ∀ p, Client.accepted b d = some p → ¬ IsActivation d.radio p := by
    intro p hp hact
    have hstation := station_handed (b := b) ticks (irqFired_of_accepted hp)
    have hown := (isActivation_station hstation p).mpr hact
    have hcommand := h.ignores p hp
    rw [libradioCommand_activate b app fuel hown] at hcommand
    have hactive := congrArg (fun e : Dev σ ↦ e.radio.state) hcommand
    dsimp only [Radio.activated] at hactive
    rw [state_libradioSetState] at hactive
    have hlow := hactive.trans ((congrArg Station.state hstation).trans hstate)
    exact absurd hlow (by decide)
  constructor
  · exact hinactive
  · intro hwakes
    have hlowest : d.radio.state < LIBRADIO_STATE_ACTIVE := by
      rw [hstate]
      decide
    obtain ⟨hrate, htimeout, hsaw⟩ := rxloopHandle_inactive app fuel ticks hlowest hinactive
    have hkept := h.rate
    rw [libradioRxloop_of_wakes b app fuel ticks hwakes] at hkept
    dsimp only at hkept
    have hlow : (rxloopHandle b app fuel ticks d).radio.state = LIBRADIO_STATE_LOW_BATTERY :=
      (congrArg Rate.state hrate).trans hstate
    rw [rxloopSwitch_lowBattery hlow] at hkept
    apply Decidable.byContradiction
    intro hover
    simp only [not_or, Decidable.not_not] at hover
    have hunseen : ¬ (rxloopHandle b app fuel ticks d).radio.sawRx = true := by
      rw [hsaw, Bool.or_eq_true]
      exact not_or.mpr ⟨hover.1, hover.2.1⟩
    have hwarm := state_rxloopActive hunseen (htimeout.trans hover.2.2)
    have hstays : (rxloopActive (rxloopHandle b app fuel ticks d).radio).state =
        LIBRADIO_STATE_LOW_BATTERY := (congrArg Rate.state hkept).trans hstate
    exact absurd (hwarm.symm.trans hstays) (by decide)

end Pass

namespace Client

/-- A client that its application puts into LOW_BATTERY stays there, with its clock as it is and
without executing a command, exactly as long as no pass takes an activation of the client or
finds that its timeout has run out. -/
theorem respectsLow_iff (b : Board σ) (app : App σ) (fuel : Nat) (d : Dev σ)
    (events : List Event) :
    Along (step b app fuel) (RespectsLow b app fuel) (lowBattery d) events ↔
      Along (step b app fuel) (UndisturbedLow b) (lowBattery d) events := by
  refine along_iff_of_inv (step b app fuel)
    (I := fun d ↦ d.radio.state = LIBRADIO_STATE_LOW_BATTERY) ?_ ?_
    (state_libradioSetState _ d.radio)
  · intro d e hstate hundisturbed
    cases e with
    | tick =>
      have hstation := (step_of_not_pass b app fuel d (.inl rfl)).1
      exact (congrArg Station.state hstation).trans hstate
    | interrupt =>
      have hstation := (step_of_not_pass b app fuel d (.inr rfl)).1
      exact (congrArg Station.state hstation).trans hstate
    | pass ticks serial =>
      have hrate := (hundisturbed.respects app fuel ticks hstate).rate
      exact (congrArg Rate.state hrate).trans hstate
  · intro d e hstate
    cases e with
    | tick => exact Iff.rfl
    | interrupt => exact Iff.rfl
    | pass ticks serial =>
      constructor
      · exact fun h ↦ h.undisturbed hstate
      · exact fun h ↦ h.respects app fuel ticks hstate

-- The identity of the client of the example.
private def lowIdentity : Identity := ⟨1, 2, 3, 4⟩

/-- An activation takes a client out of LOW_BATTERY. -/
theorem not_respectsLow_activation :
    ¬ Along (step (feed [activation lowIdentity 1 9] true) idleApp 1)
      (RespectsLow (feed [activation lowIdentity 1 9] true) idleApp 1)
      (lowBattery (start (feed [activation lowIdentity 1 9] true) lowIdentity 1 16 (powerOn 0)))
      hear := by
  intro h
  have hstate := congrArg Rate.state h.2.1.rate
  exact absurd hstate (by decide +kernel)

end Client

end Libradio
