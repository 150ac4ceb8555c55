import Libradio.Base.Simulation
import Libradio.Client.Pass
import Libradio.Client.Start

/-!
# The life of a client

What a client is for, without its radio: it sleeps, listens on channel 0 and is active on the
channel and under the node number it was assigned, until it is deactivated, cannot answer, or has
heard nothing for too long. The loop of the library follows this machine, whatever its radio
delivers.
-/

namespace Libradio
open Libradio.Base

/-! ### The machine -/

namespace Lifecycle

/-- Whether the client is active, and if so, for how many turns it stays so without traffic. -/
inductive Mode
  | startup
  | error
  | warm
  | listen
  | active (left : Nat)
  deriving DecidableEq, Repr

end Lifecycle

/-- A client: what it does, the channel it listens on and the node number it answers to. -/
structure Lifecycle where
  mode : Lifecycle.Mode
  channel : UInt8
  node : UInt8
  deriving DecidableEq, Repr

namespace Lifecycle

/-- What a turn can bring. -/
inductive Stimulus
  | silence
  | traffic
  | activate (channel node : UInt8)
  | deactivate
  | failure
  deriving DecidableEq, Repr

/-- One turn. A deactivated client is back at listening at once, and one that could not answer
goes to sleep for a turn. -/
def turn (l : Lifecycle) : Stimulus → Lifecycle
  | .activate channel node => ⟨.active 59999, channel, node⟩
  | s =>
    match l.mode, s with
    | .active _, .deactivate => ⟨.listen, 0, 0⟩
    | .active _, .failure => { l with mode := .warm }
    | .active left, .silence => { l with mode := if left = 1 then .warm else .active (left - 1) }
    | .active _, _ => { l with mode := .active 59999 }
    | .error, _ => { l with mode := .warm }
    | .listen, _ => l
    | .startup, _ => { l with mode := .listen, channel := 0 }
    | .warm, _ => { l with mode := .listen, channel := 0 }

/-- A client after its start. -/
def begin (fails : Bool) : Lifecycle := ⟨if fails then .error else .startup, 0, 0⟩

end Lifecycle

/-! ### What the machine says of a client -/

variable {σ : Type}

/-- The state of the library that a mode stands for. -/
def Lifecycle.Mode.Of : Lifecycle.Mode → Radio → Prop
  | .startup, r => r.state = LIBRADIO_STATE_STARTUP
  | .error, r => r.state = LIBRADIO_STATE_ERROR
  | .warm, r => r.state = LIBRADIO_STATE_WARM
  | .listen, r => r.state = LIBRADIO_STATE_LISTEN ∧ r.myChannel = 0
  | .active left, r =>
    r.state = LIBRADIO_STATE_ACTIVE ∧ r.sawRx = false ∧ r.timeout.toNat = left ∧ 0 < left

/-- The radio is where the machine is. -/
structure Lifecycle.Of (l : Lifecycle) (r : Radio) : Prop where
  mode : l.mode.Of r
  channel : r.myChannel = l.channel
  node : r.myNodeId = l.node

/-- What a pass that starts now brings to the client. -/
def Client.brings (b : Board σ) (app : App σ) (ticks : Nat) (d : Dev σ) : Lifecycle.Stimulus :=
  match Client.accepted b d with
  | some p =>
    if IsActivation d.radio p then .activate (dataByte p.data 0) (dataByte p.data 1)
    else if IsDeactivation d.radio p then .deactivate
    else if LIBRADIO_STATE_ACTIVE ≤ d.radio.state ∧
      ResponseFails b app p (Client.handed b ticks d) then .failure
    else .traffic
  | none => if Client.hears b d then .traffic else .silence

/-- What an event brings to the client: something only if it is a pass with a reason to wake up. -/
def Client.stimulus (b : Board σ) (app : App σ) (d : Dev σ) :
    Client.Event → Option Lifecycle.Stimulus
  | .pass ticks serial =>
    if Wakes serial d.radio then some (Client.brings b app ticks d) else none
  | _ => none

/-! ### The switch -/

section Switch

variable {r : Radio} {l : Lifecycle}

/-- The switch lowers the timeout of an active client. -/
theorem rxloopSwitch_eq_active (h : r.state = LIBRADIO_STATE_ACTIVE) :
    rxloopSwitch r = rxloopActive r := by
  unfold rxloopSwitch
  rw [h, if_neg (by decide), if_neg (by decide), if_neg (by decide)]

/-- The turn of an active client that has heard something. -/
theorem of_switch_heard (h : r.state = LIBRADIO_STATE_ACTIVE) (hsaw : r.sawRx = true) :
    (⟨.active 59999, r.myChannel, r.myNodeId⟩ : Lifecycle).Of (rxloopSwitch r) := by
  have hswitch : rxloopSwitch r = { r with timeout := 60000 - 1, sawRx := false } := by
    rw [rxloopSwitch_eq_active h]
    unfold rxloopActive
    rw [if_pos hsaw]
    have hne : (60000 : UInt16) - 1 ≠ 0 := by decide
    exact if_neg hne
  rw [hswitch]
  have hleft : ((60000 : UInt16) - 1).toNat = 59999 := by decide
  exact ⟨⟨h, rfl, hleft, by omega⟩, rfl, rfl⟩

/-- The turn of an active client that has heard nothing. -/
theorem of_switch_silent (h : r.state = LIBRADIO_STATE_ACTIVE) (hsaw : r.sawRx = false)
    (hpos : 0 < r.timeout.toNat) :
    (⟨if r.timeout.toNat = 1 then .warm else .active (r.timeout.toNat - 1), r.myChannel,
      r.myNodeId⟩ : Lifecycle).Of (rxloopSwitch r) := by
  have hswitch : rxloopSwitch r = if r.timeout - 1 = 0 then
      libradioSetState LIBRADIO_STATE_WARM { r with timeout := r.timeout - 1 }
      else { r with timeout := r.timeout - 1 } := by
    rw [rxloopSwitch_eq_active h]
    unfold rxloopActive
    rw [if_neg fun hc ↦ Bool.false_ne_true (hsaw.symm.trans hc)]
  have hsub : (r.timeout - 1).toNat = r.timeout.toNat - 1 := by
    have hlt := r.timeout.toNat_lt
    rw [UInt16.toNat_sub]
    simp only [UInt16.reduceToNat]
    omega
  have hzero : r.timeout - 1 = 0 ↔ r.timeout.toNat = 1 := by
    rw [← UInt16.toNat_inj, hsub]
    simp only [UInt16.reduceToNat]
    omega
  rw [hswitch]
  by_cases hone : r.timeout.toNat = 1
  · rw [if_pos (hzero.mpr hone), if_pos hone]
    obtain ⟨period, hstation⟩ :=
      station_libradioSetState_warm { r with timeout := r.timeout - 1 }
    exact ⟨state_libradioSetState _ _, congrArg Station.myChannel hstation,
      congrArg Station.myNodeId hstation⟩
  · rw [if_neg fun hc ↦ hone (hzero.mp hc), if_neg hone]
    refine ⟨⟨h, hsaw, hsub, ?_⟩, rfl, rfl⟩
    omega

/-- The turn of a client in ERROR. -/
theorem of_switch_error (h : r.state = LIBRADIO_STATE_ERROR) :
    (⟨.warm, r.myChannel, r.myNodeId⟩ : Lifecycle).Of (rxloopSwitch r) := by
  unfold rxloopSwitch
  rw [if_pos h]
  obtain ⟨period, hstation⟩ := station_libradioSetState_warm r
  exact ⟨state_libradioSetState _ _, congrArg Station.myChannel hstation,
    congrArg Station.myNodeId hstation⟩

/-- The turn of a client that is asleep. -/
theorem of_switch_asleep (h : IsAsleep r.state) :
    (⟨.listen, 0, r.myNodeId⟩ : Lifecycle).Of (rxloopSwitch r) := by
  have hlisten : r.state ≠ LIBRADIO_STATE_LISTEN := fun hc ↦ by
    rw [hc] at h
    exact absurd h (by decide)
  have herror : r.state ≠ LIBRADIO_STATE_ERROR := fun hc ↦ by
    rw [hc] at h
    exact absurd h (by decide)
  unfold rxloopSwitch
  rw [if_neg herror, if_pos h]
  obtain ⟨timeout, period, hstation⟩ := station_libradioSetState_listen hlisten
  have hchannel := congrArg Station.myChannel hstation
  exact ⟨⟨state_libradioSetState _ _, hchannel⟩, hchannel, congrArg Station.myNodeId hstation⟩

/-- A client that listens goes on listening. -/
theorem of_switch_listen (h : r.state = LIBRADIO_STATE_LISTEN) (hchannel : r.myChannel = 0) :
    (⟨.listen, 0, r.myNodeId⟩ : Lifecycle).Of (rxloopSwitch r) := by
  unfold rxloopSwitch
  rw [h, if_neg (by decide), if_neg (by decide), if_pos rfl]
  exact ⟨⟨h, hchannel⟩, hchannel, rfl⟩

end Switch

/-! ### A pass -/

/-- What the part of a pass before the `switch` has done to a client. -/
inductive Prompted (b : Board σ) (app : App σ) (ticks : Nat) (d : Dev σ) (r : Radio) : Prop
  | silent (brings : Client.brings b app ticks d = .silence) (station : r.station = d.radio.station)
      (sawRx : r.sawRx = d.radio.sawRx)
  | traffic (brings : Client.brings b app ticks d = .traffic) (date : UInt16)
      (station : ({ r.station with date := date, radioActive := true } : Station) =
        { d.radio.station with date := date, radioActive := true }) (sawRx : r.sawRx = true)
  | activated (channel node : UInt8) (brings : Client.brings b app ticks d = .activate channel node)
      (state : r.state = LIBRADIO_STATE_ACTIVE) (channel_eq : r.myChannel = channel)
      (node_eq : r.myNodeId = node) (sawRx : r.sawRx = true)
  | deactivated (brings : Client.brings b app ticks d = .deactivate)
      (active : LIBRADIO_STATE_ACTIVE ≤ d.radio.state)
      (state : r.state = LIBRADIO_STATE_WARM) (node : r.myNodeId = 0)
  | failed (brings : Client.brings b app ticks d = .failure)
      (active : LIBRADIO_STATE_ACTIVE ≤ d.radio.state)
      (state : r.state = LIBRADIO_STATE_ERROR) (channel : r.myChannel = d.radio.myChannel)
      (node : r.myNodeId = d.radio.myNodeId)

private theorem sawRx_activated (p : Packet) (r : Radio) : (r.activated p).sawRx = r.sawRx := by
  unfold Radio.activated libradioSetState
  split <;> rfl

private theorem prompted_rxloopHandle {b : Board σ} {app : App σ}
    (happ : app.LeavesRadio fun _ _ ↦ True)
    (fuel ticks : Nat) (d : Dev σ) :
    Prompted b app ticks d (rxloopHandle b app fuel ticks d).radio := by
  have hh := handled_rxloopHandle b.carries_true happ fuel ticks d fun _ ↦ trivial
  generalize rxloopHandle b app fuel ticks d = d' at hh ⊢
  cases hh with
  | quiet none station sawRx chip =>
    by_cases hhears : Client.hears b d = true
    · refine .traffic ?_ 0 (by rw [station]) (by rw [sawRx, hhears, Bool.or_true])
      unfold Client.brings
      rw [none]
      dsimp only
      rw [if_pos hhears]
    · have hdeaf : Client.hears b d = false := by simpa using hhears
      refine .silent ?_ station (by rw [sawRx, hdeaf, Bool.or_false])
      unfold Client.brings
      rw [none]
      dsimp only
      rw [if_neg hhears]
  | command p some e e' handed station sawRx chip command station' sawRx' chip' =>
    have hbrings : Client.brings b app ticks d =
        if IsActivation e.radio p then .activate (dataByte p.data 0) (dataByte p.data 1)
        else if IsDeactivation e.radio p then .deactivate
        else if LIBRADIO_STATE_ACTIVE ≤ e.radio.state ∧ ResponseFails b app p e then .failure
        else .traffic := by
      have hstate : e.radio.state = d.radio.state := congrArg Station.state station
      unfold Client.brings
      rw [some]
      dsimp only
      rw [← handed]
      simp only [isActivation_station station, isDeactivation_station station, hstate]
    have hstate : d'.radio.state = e'.radio.state := congrArg Station.state station'
    have hchannel : d'.radio.myChannel = e'.radio.myChannel := congrArg Station.myChannel station'
    have hnode : d'.radio.myNodeId = e'.radio.myNodeId := congrArg Station.myNodeId station'
    cases command with
    | kept act deact works date kept sawRx'' chip'' =>
      rw [if_neg act, if_neg deact, if_neg fun hc ↦ works hc.1 hc.2] at hbrings
      refine .traffic hbrings date ?_ (by rw [sawRx', sawRx'', sawRx])
      rw [station', kept, station]
    | activated act eq =>
      rw [if_pos act] at hbrings
      obtain ⟨timeout, period, hs⟩ := station_activated p e.radio
      have hsaw : e'.radio.sawRx = e.radio.sawRx := by rw [eq]; exact sawRx_activated p e.radio
      rw [eq] at hstate hchannel hnode
      exact .activated _ _ hbrings (hstate.trans (congrArg Station.state hs))
        (hchannel.trans (congrArg Station.myChannel hs))
        (hnode.trans (congrArg Station.myNodeId hs)) (by rw [sawRx', hsaw, sawRx])
    | deactivated deact eq =>
      have hact : ¬ IsActivation e.radio p := fun hc ↦
        absurd (hc.1.symm.trans deact.1) (by decide)
      rw [if_neg hact, if_pos deact] at hbrings
      obtain ⟨period, hs⟩ := station_deactivated e.radio
      rw [eq] at hstate hnode
      have hactive : LIBRADIO_STATE_ACTIVE ≤ d.radio.state := by
        rw [← show e.radio.state = d.radio.state from congrArg Station.state station]
        exact deact.2.2
      exact .deactivated hbrings hactive (hstate.trans (congrArg Station.state hs))
        (hnode.trans (congrArg Station.myNodeId hs))
    | responded act deact active u settled fails responded =>
      rw [if_neg act, if_neg deact] at hbrings
      have hactive : LIBRADIO_STATE_ACTIVE ≤ d.radio.state := by
        rw [← show e.radio.state = d.radio.state from congrArg Station.state station]
        exact active
      -- the station before the response is that of `d`
      have hu : u.radio.station = d.radio.station := settled.station.trans station
      have herror (herr : e'.radio.station.state = LIBRADIO_STATE_ERROR)
          (hch : e'.radio.station.myChannel = u.radio.station.myChannel)
          (hno : e'.radio.station.myNodeId = u.radio.station.myNodeId)
          (hfails : PowerFails b u) : Prompted b app ticks d d'.radio := by
        rw [if_pos ⟨active, fails.mp hfails⟩] at hbrings
        rw [hu] at hch hno
        exact .failed hbrings hactive (hstate.trans herr) (hchannel.trans hch) (hnode.trans hno)
      cases responded with
      | listening works listening =>
        rw [if_neg fun hc ↦ works (fails.mpr hc.2)] at hbrings
        have hsaw : e'.radio.sawRx = true := by
          have h₁ := congrArg Heard.sawRx listening.heard
          have h₂ := congrArg Heard.sawRx settled.heard
          exact h₁.trans (h₂.trans sawRx)
        refine .traffic hbrings d.radio.station.date ?_ (sawRx'.trans hsaw)
        rw [station', listening.station, hu]
      | late fails' listening =>
        rw [listening.station] at herror
        exact herror rfl rfl rfl fails'
      | failed fails' settled' =>
        rw [settled'.station] at herror
        exact herror rfl rfl rfl fails'

/-- A client in one of the active states is active. -/
theorem Lifecycle.Mode.eq_active {mode : Lifecycle.Mode} {r : Radio} (h : mode.Of r)
    (hactive : LIBRADIO_STATE_ACTIVE ≤ r.state) : ∃ left, mode = .active left := by
  cases mode with
  | startup => exact absurd (h ▸ hactive) (by decide)
  | error => exact absurd (h ▸ hactive) (by decide)
  | warm => exact absurd (h ▸ hactive) (by decide)
  | listen => exact absurd (h.1 ▸ hactive) (by decide)
  | active left => exact ⟨left, rfl⟩

/-- The turn of a client that is not active and gets no order. -/
theorem of_turn_idle {mode : Lifecycle.Mode} {r r' : Radio} (h : mode.Of r)
    (hinactive : ∀ left, mode ≠ .active left) (hstate : r'.state = r.state)
    (hchannel : r'.myChannel = r.myChannel) (hnode : r'.myNodeId = r.myNodeId)
    {s : Lifecycle.Stimulus} (hs : s = .silence ∨ s = .traffic) :
    ((⟨mode, r.myChannel, r.myNodeId⟩ : Lifecycle).turn s).Of (rxloopSwitch r') := by
  rw [← hchannel, ← hnode]
  cases mode with
  | startup =>
    have hasleep := of_switch_asleep (r := r') (.inl (hstate.trans h))
    rcases hs with rfl | rfl <;> exact hasleep
  | error =>
    have herror := of_switch_error (r := r') (hstate.trans h)
    rcases hs with rfl | rfl <;> exact herror
  | warm =>
    have hasleep := of_switch_asleep (r := r') (.inr (.inr (hstate.trans h)))
    rcases hs with rfl | rfl <;> exact hasleep
  | listen =>
    have hzero : r'.myChannel = 0 := hchannel.trans h.2
    have hlisten := of_switch_listen (r := r') (hstate.trans h.1) hzero
    rw [hzero]
    rcases hs with rfl | rfl <;> exact hlisten
  | active left => exact absurd rfl (hinactive left)

/-- A pass that wakes up is a turn. -/
theorem of_pass {b : Board σ} {app : App σ} (happ : app.LeavesRadio fun _ _ ↦ True)
    (fuel ticks : Nat) {serial : Bool} {d : Dev σ} {l : Lifecycle} (h : l.Of d.radio)
    (hwakes : Wakes serial d.radio) :
    (l.turn (Client.brings b app ticks d)).Of (libradioRxloop b app fuel ticks serial d).radio := by
  have hprompted := prompted_rxloopHandle (b := b) happ fuel ticks d
  rw [libradioRxloop_of_wakes b app fuel ticks hwakes]
  dsimp only
  generalize (rxloopHandle b app fuel ticks d).radio = r at hprompted ⊢
  obtain ⟨mode, channel, node⟩ := l
  obtain ⟨hmode, rfl, rfl⟩ := h
  cases hprompted with
  | silent brings station sawRx =>
    have hstate : r.state = d.radio.state := congrArg Station.state station
    have hchannel : r.myChannel = d.radio.myChannel := congrArg Station.myChannel station
    have hnode : r.myNodeId = d.radio.myNodeId := congrArg Station.myNodeId station
    have htimeout : r.timeout = d.radio.timeout := congrArg Station.timeout station
    rw [brings]
    cases mode with
    | active left =>
      obtain ⟨hactive, hsaw, hleft, hpos⟩ := hmode
      rw [← htimeout] at hleft
      subst hleft
      rw [← hchannel, ← hnode]
      exact of_switch_silent (hstate.trans hactive) (sawRx.trans hsaw) hpos
    | startup => exact of_turn_idle hmode nofun hstate hchannel hnode (.inl rfl)
    | error => exact of_turn_idle hmode nofun hstate hchannel hnode (.inl rfl)
    | warm => exact of_turn_idle hmode nofun hstate hchannel hnode (.inl rfl)
    | listen => exact of_turn_idle hmode nofun hstate hchannel hnode (.inl rfl)
  | traffic brings date station sawRx =>
    have hstate : r.state = d.radio.state := congrArg Station.state station
    have hchannel : r.myChannel = d.radio.myChannel := congrArg Station.myChannel station
    have hnode : r.myNodeId = d.radio.myNodeId := congrArg Station.myNodeId station
    rw [brings]
    cases mode with
    | active left =>
      rw [← hchannel, ← hnode]
      exact of_switch_heard (hstate.trans hmode.1) sawRx
    | startup => exact of_turn_idle hmode nofun hstate hchannel hnode (.inr rfl)
    | error => exact of_turn_idle hmode nofun hstate hchannel hnode (.inr rfl)
    | warm => exact of_turn_idle hmode nofun hstate hchannel hnode (.inr rfl)
    | listen => exact of_turn_idle hmode nofun hstate hchannel hnode (.inr rfl)
  | activated channel node brings state channel_eq node_eq sawRx =>
    rw [brings, ← channel_eq, ← node_eq]
    exact of_switch_heard state sawRx
  | deactivated brings active state node =>
    obtain ⟨left, rfl⟩ := Lifecycle.Mode.eq_active hmode active
    have hasleep := of_switch_asleep (r := r) (.inr (.inr state))
    rw [node] at hasleep
    rw [brings]
    exact hasleep
  | failed brings active state channel node =>
    obtain ⟨left, rfl⟩ := Lifecycle.Mode.eq_active hmode active
    rw [brings, ← channel, ← node]
    exact of_switch_error state

/-! ### A run -/

/-- What the machine says of a radio it says of every other one with the same station that has
heard as much. -/
theorem Lifecycle.Of.congr {l : Lifecycle} {r r' : Radio} (h : l.Of r)
    (station : r'.station = r.station) (sawRx : r'.sawRx = r.sawRx) : l.Of r' := by
  have hstate : r'.state = r.state := congrArg Station.state station
  have hchannel : r'.myChannel = r.myChannel := congrArg Station.myChannel station
  have hnode : r'.myNodeId = r.myNodeId := congrArg Station.myNodeId station
  have htimeout : r'.timeout = r.timeout := congrArg Station.timeout station
  refine ⟨?_, hchannel.trans h.channel, hnode.trans h.node⟩
  have hmode := h.mode
  cases hm : l.mode <;> rw [hm] at hmode <;>
    simpa only [Lifecycle.Mode.Of, hstate, hchannel, sawRx, htimeout] using hmode

/-- One event of a client is what the machine does for the stimulus, if there is one. -/
theorem of_step {b : Board σ} {app : App σ} (happ : app.LeavesRadio fun _ _ ↦ True)
    (fuel : Nat) {d : Dev σ} {l : Lifecycle} (h : l.Of d.radio) (e : Client.Event) :
    (follow Lifecycle.turn l (Client.stimulus b app d e)).Of
      (Client.step b app fuel d e).radio := by
  cases e with
  | tick =>
    refine h.congr (Client.step_of_not_pass b app fuel d (.inl rfl)).1 ?_
    exact sawRx_clockticks 1 d.radio
  | interrupt =>
    refine h.congr (Client.step_of_not_pass b app fuel d (.inr rfl)).1 ?_
    unfold Client.step
    dsimp only
    split <;> rfl
  | pass ticks serial =>
    unfold Client.stimulus Client.step
    dsimp only
    by_cases hwakes : Wakes serial d.radio
    · rw [if_pos hwakes]
      exact of_pass happ fuel ticks h hwakes
    · rw [if_neg hwakes, libradioRxloop_of_not_wakes b app fuel ticks hwakes]
      exact h

/-- A client that was started is at the beginning. -/
theorem of_start (b : Board σ) (id : Client.Identity) (fast slow : UInt8) (d : Dev σ) :
    (Lifecycle.begin (PowerFails b (Client.prepared b id fast slow d))).Of
      (Client.start b id fast slow d).radio := by
  rcases Client.start_spec b.keeps_true id fast slow d with ⟨hworks, h⟩ | ⟨hfails, h⟩
  · rw [decide_eq_false hworks]
    exact ⟨congrArg Station.state h.station, congrArg Station.myChannel h.station,
      congrArg Station.myNodeId h.station⟩
  · rw [decide_eq_true hfails]
    exact ⟨congrArg Station.state h.station, congrArg Station.myChannel h.station,
      congrArg Station.myNodeId h.station⟩

/-- In every run of a client whose application leaves the radio alone, with any radio, it is where
the machine is after the same turns. -/
theorem client_follows_lifecycle (b : Board σ) {app : App σ}
    (happ : app.LeavesRadio fun _ _ ↦ True) (fuel : Nat) (id : Client.Identity) (fast slow : UInt8)
    (d : Dev σ) (events : List Client.Event) :
    let d₀ := Client.start b id fast slow d
    let l₀ := Lifecycle.begin (PowerFails b (Client.prepared b id fast slow d))
    (run Lifecycle.turn l₀
        (observed (Client.step b app fuel) (Client.stimulus b app) d₀ events)).Of
      (run (Client.step b app fuel) d₀ events).radio :=
  simulates (Client.step b app fuel) (Client.stimulus b app)
    (R := fun (d : Dev σ) (l : Lifecycle) ↦ l.Of d.radio)
    (fun _ e _ h ↦ of_step happ fuel h e) events (of_start b id fast slow d)

-- A sensor is activated for channel 2 as node 5, hears nothing in one pass and is told to
-- deactivate itself in the next.
private def shortLife : List Client.Event :=
  Client.hear ++ [.pass 0 true] ++ Client.hear

private def shortLifeRadio : Board Nat :=
  Client.feed [Client.activation ⟨127, 1, 0, 1⟩ 2 5,
    { Packet.zero with cmd := RADIO_CMD_DEACTIVATE }] true

private def sensorStarted : Dev Nat :=
  Client.start shortLifeRadio ⟨127, 1, 0, 1⟩ 1 16 (Client.powerOn 0)

/-- It starts, is active, and ends up listening on channel 0. -/
theorem client_follows_lifecycle_short :
    observed (Client.step shortLifeRadio Client.idleApp 0)
        (Client.stimulus shortLifeRadio Client.idleApp) sensorStarted shortLife =
      [.activate 2 5, .silence, .deactivate] ∧
    (⟨.listen, 0, 0⟩ : Lifecycle).Of
      (run (Client.step shortLifeRadio Client.idleApp 0) sensorStarted shortLife).radio := by
  have hturns : observed (Client.step shortLifeRadio Client.idleApp 0)
      (Client.stimulus shortLifeRadio Client.idleApp) sensorStarted shortLife =
        [.activate 2 5, .silence, .deactivate] := by decide +kernel
  have h := client_follows_lifecycle shortLifeRadio
    (Client.leavesRadio_idleApp fun _ ↦ trivial) 0 ⟨127, 1, 0, 1⟩ 1 16 (Client.powerOn 0) shortLife
  have hlisten := h
  dsimp only at hlisten
  rw [show Client.start shortLifeRadio ⟨127, 1, 0, 1⟩ 1 16 (Client.powerOn 0) = sensorStarted from
    rfl, hturns] at hlisten
  exact ⟨hturns, hlisten⟩

end Libradio
