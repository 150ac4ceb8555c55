import Libradio.Client.Loop
import Libradio.Client.Pass
import Libradio.Client.Start

/-!
# The life of a node ID

A node ID is given by an activation and taken back by a deactivation
(`src/COMMANDS.md:39-47`). Three ways lead out of this: an activation that gives the ID 0, an
active client that falls asleep after a long silence, and an active client whose radio cannot
be powered up for a response; the last two keep the ID.
-/

namespace Libradio
open Libradio.Base

variable {σ : Type}

/-- The node ID is 0 below ACTIVE and not 0 in ACTIVE. -/
def NodeIdFits (r : Radio) : Prop :=
  (r.state < LIBRADIO_STATE_ACTIVE → r.myNodeId = 0) ∧
    (r.state = LIBRADIO_STATE_ACTIVE → r.myNodeId ≠ 0)

instance (r : Radio) : Decidable (NodeIdFits r) := inferInstanceAs (Decidable (_ ∧ _))

/-- The next pass executes an activation with the node ID 0. -/
def ActivatesAsZero (b : Board σ) (d : Dev σ) : Prop :=
  ∃ p ∈ Client.accepted b d, IsActivation d.radio p ∧ dataByte p.data 1 = 0

/-- The client is active, its timeout runs out in the next pass, and no packet was received. -/
def FallsSilent (b : Board σ) (d : Dev σ) : Prop :=
  d.radio.state = LIBRADIO_STATE_ACTIVE ∧ d.radio.timeout = 1 ∧ d.radio.sawRx = false ∧
    Client.hears b d = false

/-- The client is active and the next pass tries a response for which the radio cannot be
powered up. -/
def LosesRadio (b : Board σ) (app : App σ) (ticks : Nat) (d : Dev σ) : Prop :=
  d.radio.state = LIBRADIO_STATE_ACTIVE ∧
    ∃ p ∈ Client.accepted b d, ResponseFails b app p (Client.handed b ticks d)

instance (b : Board σ) (d : Dev σ) : Decidable (ActivatesAsZero b d) :=
  inferInstanceAs (Decidable (∃ p ∈ Client.accepted b d, _))

instance (b : Board σ) (d : Dev σ) : Decidable (FallsSilent b d) :=
  inferInstanceAs (Decidable (_ ∧ _))

instance (b : Board σ) (app : App σ) (ticks : Nat) (d : Dev σ) :
    Decidable (LosesRadio b app ticks d) :=
  inferInstanceAs (Decidable (_ ∧ ∃ p ∈ Client.accepted b d, _))

/-- An event that is none of the three. -/
def KeepsNodeId (b : Board σ) (app : App σ) (d : Dev σ) : Client.Event → Prop
  | .tick => True
  | .interrupt => True
  | .pass ticks serial => Wakes serial d.radio →
      ¬ ActivatesAsZero b d ∧ ¬ FallsSilent b d ∧ ¬ LosesRadio b app ticks d

instance (b : Board σ) (app : App σ) (d : Dev σ) :
    (e : Client.Event) → Decidable (KeepsNodeId b app d e)
  | .tick => inferInstanceAs (Decidable True)
  | .interrupt => inferInstanceAs (Decidable True)
  | .pass _ _ => inferInstanceAs (Decidable (_ → _))

/-- The node ID fits a radio when it fits its station. -/
theorem nodeIdFits_station {r : Radio} {s : Station} (h : r.station = s) :
    NodeIdFits r ↔ (s.state < LIBRADIO_STATE_ACTIVE → s.myNodeId = 0) ∧
      (s.state = LIBRADIO_STATE_ACTIVE → s.myNodeId ≠ 0) := by
  subst h
  rfl

/-- What the `switch` makes of a node ID. -/
theorem nodeIdFits_rxloopSwitch {r : Radio} (hle : r.state ≤ LIBRADIO_STATE_ACTIVE) :
    NodeIdFits (rxloopSwitch r) ↔ (r.state < LIBRADIO_STATE_ACTIVE → r.myNodeId = 0) ∧
      (r.state = LIBRADIO_STATE_ACTIVE →
        (r.myNodeId = 0 ↔ r.sawRx = false ∧ r.timeout = 1)) := by
  have hmax : r.state < LIBRADIO_STATE_ACTIVE ∨ r.state = LIBRADIO_STATE_ACTIVE :=
    UInt8.lt_or_eq_of_le hle
  have hwarm : LIBRADIO_STATE_WARM < LIBRADIO_STATE_ACTIVE := by decide
  have hlisten : LIBRADIO_STATE_LISTEN < LIBRADIO_STATE_ACTIVE := by decide
  have hlow {s : UInt8} (h : s < LIBRADIO_STATE_ACTIVE) : s ≠ LIBRADIO_STATE_ACTIVE :=
    UInt8.ne_of_lt h
  cases switched_rxloopSwitch r with
  | recovered error period station =>
    have hs : r.state < LIBRADIO_STATE_ACTIVE := by rw [error]; decide
    simp only [nodeIdFits_station station, hwarm, hlow hwarm, hs, hlow hs, forall_const,
      false_implies, and_true]
    rfl
  | woken asleep timeout period station =>
    have hs : r.state < LIBRADIO_STATE_ACTIVE := by
      rcases asleep with h | h | h <;> rw [h] <;> decide
    simp only [nodeIdFits_station station, hlisten, hlow hlisten, hs, hlow hs, forall_const,
      false_implies, and_true]
    rfl
  | listening listen eq =>
    have hs : r.state < LIBRADIO_STATE_ACTIVE := by rw [listen]; decide
    simp only [eq, NodeIdFits, hs, hlow hs, false_implies, and_true]
  | waiting error asleep seen timeout station =>
    have hno : ¬ (r.sawRx = false ∧ r.timeout = 1) := fun h ↦ by
      rcases seen with hseen | hseen
      · rw [h.1] at hseen
        cases hseen
      · exact hseen h.2
    rw [nodeIdFits_station station]
    simp only [hno, iff_false]
    rfl
  | silent error asleep listen unseen expired timeout period station =>
    simp only [nodeIdFits_station station, hwarm, hlow hwarm, unseen, expired, forall_const,
      false_implies, and_true, iff_true]
    refine ⟨fun h ↦ ⟨fun _ ↦ h, fun _ ↦ h⟩, fun h ↦ ?_⟩
    rcases hmax with hs | hs
    · exact h.1 hs
    · exact h.2 hs

/-- No command and no `switch` leads above ACTIVE. -/
theorem state_rxloopSwitch_le {r : Radio} (hle : r.state ≤ LIBRADIO_STATE_ACTIVE) :
    (rxloopSwitch r).state ≤ LIBRADIO_STATE_ACTIVE := by
  have hst {c : UInt8} (h : (rxloopSwitch r).station.state = c) (hc : c ≤ LIBRADIO_STATE_ACTIVE) :
      (rxloopSwitch r).state ≤ LIBRADIO_STATE_ACTIVE := by
    rw [← h] at hc
    exact hc
  have hwarm : LIBRADIO_STATE_WARM ≤ LIBRADIO_STATE_ACTIVE := by decide
  have hlisten : LIBRADIO_STATE_LISTEN ≤ LIBRADIO_STATE_ACTIVE := by decide
  cases switched_rxloopSwitch r with
  | recovered error period station => exact hst (congrArg Station.state station) hwarm
  | woken asleep timeout period station => exact hst (congrArg Station.state station) hlisten
  | listening listen eq =>
    rw [eq]
    exact hle
  | waiting error asleep seen timeout station => exact hst (congrArg Station.state station) hle
  | silent error asleep listen unseen expired timeout period station =>
    exact hst (congrArg Station.state station) hwarm

/-- The states a library alone can put a client into, with a node ID that fits. -/
structure Assigned (r : Radio) : Prop where
  fits : NodeIdFits r
  state : r.state ≤ LIBRADIO_STATE_ACTIVE

/-- With a packet received the `switch` leaves the node ID to the state. -/
theorem nodeIdFits_rxloopSwitch_of_sawRx {r : Radio} (hle : r.state ≤ LIBRADIO_STATE_ACTIVE)
    (hsaw : r.sawRx = true) : NodeIdFits (rxloopSwitch r) ↔ NodeIdFits r := by
  have hno : ¬ (r.sawRx = false ∧ r.timeout = 1) := fun h ↦ by
    rw [hsaw] at h
    cases h.1
  rw [nodeIdFits_rxloopSwitch hle, NodeIdFits]
  simp only [hno, iff_false]

/-- An activation fits if the node ID it gives is not 0. -/
theorem nodeIdFits_activated (p : Packet) (r : Radio) :
    NodeIdFits (r.activated p) ↔ dataByte p.data 1 ≠ 0 := by
  obtain ⟨timeout, period, h⟩ := station_activated p r
  have hlt : ¬ LIBRADIO_STATE_ACTIVE < LIBRADIO_STATE_ACTIVE := by decide
  rw [nodeIdFits_station h]
  simp only [hlt, false_implies, true_and, forall_const]

/-- A deactivation fits. -/
theorem nodeIdFits_deactivated (r : Radio) : NodeIdFits r.deactivated := by
  obtain ⟨period, h⟩ := station_deactivated r
  have hne : LIBRADIO_STATE_WARM ≠ LIBRADIO_STATE_ACTIVE := by decide
  rw [nodeIdFits_station h]
  exact ⟨fun _ ↦ rfl, fun hc ↦ absurd hc hne⟩

/-- Whether the node ID fits after a command is decided by the command. -/
theorem nodeIdFits_commanded {b : Board σ} {app : App σ} {R : σ → σ → Prop} {p : Packet}
    {d d' : Dev σ} (h : Assigned d.radio) (hc : Commanded b app R p d d') :
    d'.radio.state ≤ LIBRADIO_STATE_ACTIVE ∧ (d.radio.sawRx = true → d'.radio.sawRx = true) ∧
      (NodeIdFits d'.radio ↔ ¬ (IsActivation d.radio p ∧ dataByte p.data 1 = 0) ∧
        ¬ (d.radio.state = LIBRADIO_STATE_ACTIVE ∧ ResponseFails b app p d)) := by
  obtain ⟨⟨hlow, hactive⟩, hle⟩ := h
  cases hc with
  | kept act deact works date station sawRx chip =>
    have hstate : d'.radio.state = d.radio.state := congrArg Station.state station
    refine ⟨hstate ▸ hle, fun h ↦ sawRx.trans h, ?_⟩
    rw [nodeIdFits_station station]
    refine iff_of_true ⟨hlow, hactive⟩ ⟨fun hc ↦ act hc.1, fun hc ↦ ?_⟩
    exact works (by rw [hc.1]; decide) hc.2
  | activated act eq =>
    have hno : ¬ ResponseFails b app p d := by
      rintro (h | h) <;> exact absurd (act.1.symm.trans h.1) (by decide)
    have hsaw : (d.radio.activated p).sawRx = d.radio.sawRx := by
      unfold Radio.activated libradioSetState
      split <;> rfl
    have hstate : (d.radio.activated p).state ≤ LIBRADIO_STATE_ACTIVE := by
      rw [Radio.activated, state_libradioSetState]
      decide
    rw [eq]
    refine ⟨hstate, fun h ↦ hsaw.trans h, ?_⟩
    rw [nodeIdFits_activated]
    simp only [act, hno, true_and, and_false, not_false_eq_true, and_true, ne_eq]
  | deactivated deact eq =>
    have hno : ¬ ResponseFails b app p d := by
      rintro (h | h) <;> exact absurd (deact.1.symm.trans h.1) (by decide)
    have hact : ¬ IsActivation d.radio p := fun h ↦ absurd (deact.1.symm.trans h.1) (by decide)
    have hsaw : d.radio.deactivated.sawRx = d.radio.sawRx := by
      unfold Radio.deactivated libradioSetState
      split <;> rfl
    have hstate : d.radio.deactivated.state ≤ LIBRADIO_STATE_ACTIVE := by
      rw [Radio.deactivated, state_libradioSetState]
      decide
    rw [eq]
    exact ⟨hstate, fun h ↦ hsaw.trans h, iff_of_true (nodeIdFits_deactivated d.radio)
      ⟨fun h ↦ hact h.1, fun h ↦ hno h.2⟩⟩
  | responded act deact active e settled fails responded =>
    have hesaw : e.radio.sawRx = d.radio.sawRx := congrArg Heard.sawRx settled.heard
    have hs : d.radio.state = LIBRADIO_STATE_ACTIVE := UInt8.le_antisymm hle active
    have herror : LIBRADIO_STATE_ERROR < LIBRADIO_STATE_ACTIVE := by decide
    have hnode : d.radio.myNodeId ≠ 0 := hactive hs
    rw [← fails]
    have hlost {t : Station} (hstation : d'.radio.station = t)
        (ht : t.state = LIBRADIO_STATE_ERROR) (hid : t.myNodeId = d.radio.myNodeId)
        (hheard : d'.radio.heard = e.radio.heard) (hf : PowerFails b e) :
        d'.radio.state ≤ LIBRADIO_STATE_ACTIVE ∧ (d.radio.sawRx = true → d'.radio.sawRx = true) ∧
          (NodeIdFits d'.radio ↔ ¬ (IsActivation d.radio p ∧ dataByte p.data 1 = 0) ∧
            ¬ (d.radio.state = LIBRADIO_STATE_ACTIVE ∧ PowerFails b e)) := by
      have hstate : d'.radio.state = LIBRADIO_STATE_ERROR :=
        (congrArg Station.state hstation).trans ht
      have hsaw : d'.radio.sawRx = d.radio.sawRx :=
        (congrArg Heard.sawRx hheard).trans hesaw
      refine ⟨hstate ▸ UInt8.le_of_lt herror, fun h ↦ hsaw.trans h, ?_⟩
      rw [nodeIdFits_station hstation, ht, hid]
      exact iff_of_false (fun h ↦ hnode (h.1 herror)) fun h ↦ h.2 ⟨hs, hf⟩
    cases responded with
    | listening works listening =>
      rw [settled.station] at listening
      have hstate : d'.radio.state = d.radio.state := congrArg Station.state listening.station
      have hsaw : d'.radio.sawRx = d.radio.sawRx :=
        (congrArg Heard.sawRx listening.heard).trans hesaw
      refine ⟨hstate ▸ hle, fun h ↦ hsaw.trans h, ?_⟩
      rw [nodeIdFits_station listening.station]
      exact iff_of_true ⟨hlow, hactive⟩ ⟨fun h ↦ act h.1, fun h ↦ works h.2⟩
    | late fails' listening =>
      rw [settled.station] at listening
      exact hlost listening.station rfl rfl listening.heard fails'
    | failed fails' lost =>
      rw [settled.station] at lost
      exact hlost lost.station rfl rfl lost.heard fails'

/-- Whether the node ID fits after a pass is decided by what is in the radio before it. -/
theorem nodeIdFits_libradioRxloop {b : Board σ} {app : App σ}
    (happ : app.LeavesRadio fun _ _ ↦ True) (fuel ticks : Nat) {serial : Bool} {d : Dev σ}
    (h : Assigned d.radio) (hwakes : Wakes serial d.radio) :
    (libradioRxloop b app fuel ticks serial d).radio.state ≤ LIBRADIO_STATE_ACTIVE ∧
      (NodeIdFits (libradioRxloop b app fuel ticks serial d).radio ↔
        ¬ ActivatesAsZero b d ∧ ¬ FallsSilent b d ∧ ¬ LosesRadio b app ticks d) := by
  have hh := handled_rxloopHandle b.carries_true happ fuel ticks d fun _ ↦ trivial
  rw [libradioRxloop_of_wakes b app fuel ticks hwakes]
  dsimp only
  generalize rxloopHandle b app fuel ticks d = e at hh ⊢
  obtain ⟨⟨hlow, hactive⟩, hle⟩ := h
  cases hh with
  | quiet none station sawRx chip =>
    have hstate : e.radio.state = d.radio.state := congrArg Station.state station
    have hnode : e.radio.myNodeId = d.radio.myNodeId := congrArg Station.myNodeId station
    have htimeout : e.radio.timeout = d.radio.timeout := congrArg Station.timeout station
    refine ⟨state_rxloopSwitch_le (hstate ▸ hle), ?_⟩
    rw [nodeIdFits_rxloopSwitch (hstate ▸ hle), hstate, hnode, htimeout, sawRx,
      Bool.or_eq_false_iff]
    have hzero : ¬ ActivatesAsZero b d := by simp [ActivatesAsZero, none]
    have hradio : ¬ LosesRadio b app ticks d := by simp [LosesRadio, none]
    simp only [hzero, hradio, not_false_eq_true, true_and, and_true, FallsSilent]
    constructor
    · rintro ⟨-, h⟩ ⟨hs, ht, hsaw, hhears⟩
      exact hactive hs ((h hs).mpr ⟨⟨hsaw, hhears⟩, ht⟩)
    · refine fun h ↦ ⟨hlow, fun hs ↦ iff_of_false (hactive hs) ?_⟩
      rintro ⟨⟨hsaw, hhears⟩, ht⟩
      exact h ⟨hs, ht, hsaw, hhears⟩
  | command p some e' f handed station sawRx chip command station' sawRx' chip' =>
    have hsilent : ¬ FallsSilent b d := fun h ↦ by
      rw [FallsSilent, hears_of_accepted some] at h
      cases h.2.2.2
    have hactsome : ActivatesAsZero b d ↔ IsActivation d.radio p ∧ dataByte p.data 1 = 0 := by
      simp [ActivatesAsZero, some]
    have hlosesome : LosesRadio b app ticks d ↔ d.radio.state = LIBRADIO_STATE_ACTIVE ∧
        ResponseFails b app p e' := by
      simp [LosesRadio, some, handed]
    have hstate : e'.radio.state = d.radio.state := congrArg Station.state station
    have hfstate : e.radio.state = f.radio.state := congrArg Station.state station'
    have hassigned : Assigned e'.radio :=
      ⟨(nodeIdFits_station station).mpr ⟨hlow, hactive⟩, hstate ▸ hle⟩
    obtain ⟨hfle, hfsaw, hfits⟩ := nodeIdFits_commanded hassigned command
    have hele : e.radio.state ≤ LIBRADIO_STATE_ACTIVE := hfstate ▸ hfle
    refine ⟨state_rxloopSwitch_le hele, ?_⟩
    rw [nodeIdFits_rxloopSwitch_of_sawRx hele (sawRx'.trans (hfsaw sawRx)),
      nodeIdFits_station station', and_iff_right hsilent, hactsome, hlosesome,
      ← isActivation_station station, ← hstate]
    exact hfits

/-- Whether the node ID fits after an event is decided by the event. -/
theorem assigned_step {b : Board σ} {app : App σ} (happ : app.LeavesRadio fun _ _ ↦ True)
    (fuel : Nat) (d : Dev σ) (e : Client.Event) (h : Assigned d.radio) :
    (Client.step b app fuel d e).radio.state ≤ LIBRADIO_STATE_ACTIVE ∧
      (NodeIdFits (Client.step b app fuel d e).radio ↔ KeepsNodeId b app d e) := by
  have hsame {r : Radio} (hr : r.station = d.radio.station) :
      r.state ≤ LIBRADIO_STATE_ACTIVE ∧ NodeIdFits r := by
    have hstate : r.state = d.radio.state := congrArg Station.state hr
    exact ⟨hstate ▸ h.state, (nodeIdFits_station hr).mpr h.fits⟩
  cases e with
  | tick =>
    have htick := hsame (Client.step_of_not_pass b app fuel d (.inl rfl)).1
    exact ⟨htick.1, iff_true_intro htick.2⟩
  | interrupt =>
    have hirq := hsame (Client.step_of_not_pass b app fuel d (.inr rfl)).1
    exact ⟨hirq.1, iff_true_intro hirq.2⟩
  | pass ticks serial =>
    change (libradioRxloop b app fuel ticks serial d).radio.state ≤ LIBRADIO_STATE_ACTIVE ∧
      (NodeIdFits (libradioRxloop b app fuel ticks serial d).radio ↔
        (Wakes serial d.radio → ¬ ActivatesAsZero b d ∧ ¬ FallsSilent b d ∧
          ¬ LosesRadio b app ticks d))
    by_cases hwakes : Wakes serial d.radio
    · have hloop := nodeIdFits_libradioRxloop (b := b) happ fuel ticks h hwakes
      exact ⟨hloop.1, hloop.2.trans ⟨fun hc _ ↦ hc, fun hc ↦ hc hwakes⟩⟩
    · rw [libradioRxloop_of_not_wakes b app fuel ticks hwakes]
      exact ⟨h.state, iff_of_true h.fits fun hc ↦ absurd hc hwakes⟩

/-- A client starts without a node ID, whether or not its radio powers up. -/
theorem assigned_start (b : Board σ) (id : Client.Identity) (fast slow : UInt8) (d : Dev σ) :
    Assigned (Client.start b id fast slow d).radio := by
  have hof {s : Station} (h : (Client.start b id fast slow d).radio.station = s)
      (hlow : s.state < LIBRADIO_STATE_ACTIVE) (hid : s.myNodeId = 0) :
      Assigned (Client.start b id fast slow d).radio := by
    have hs : (Client.start b id fast slow d).radio.state = s.state := congrArg Station.state h
    refine ⟨(nodeIdFits_station h).mpr ⟨fun _ ↦ hid, fun hc ↦ ?_⟩, ?_⟩
    · exact absurd hc (UInt8.ne_of_lt hlow)
    · rw [hs]
      exact UInt8.le_of_lt hlow
  have herror : LIBRADIO_STATE_ERROR < LIBRADIO_STATE_ACTIVE := by decide
  have hstartup : LIBRADIO_STATE_STARTUP < LIBRADIO_STATE_ACTIVE := by decide
  rcases Client.start_spec b.keeps_true id fast slow d with ⟨-, h⟩ | ⟨-, h⟩
  · exact hof h.station hstartup rfl
  · exact hof h.station herror rfl

/-- In every run of a client the node ID fits the state all the time exactly when no pass
executes an activation with the node ID 0, falls silent, or loses its radio. -/
theorem node_id_fits_iff (b : Board σ) {app : App σ} (happ : app.LeavesRadio fun _ _ ↦ True)
    (fuel : Nat) (id : Client.Identity) (fast slow : UInt8) (d : Dev σ)
    (events : List Client.Event) :
    (∀ pre, pre <+: events → NodeIdFits
      (run (Client.step b app fuel) (Client.start b id fast slow d) pre).radio) ↔
      Along (Client.step b app fuel) (KeepsNodeId b app) (Client.start b id fast slow d)
        events := by
  have h0 := assigned_start b id fast slow d
  rw [forall_prefix_iff (Client.step b app fuel) (fun d ↦ NodeIdFits d.radio),
    and_iff_right h0.fits]
  refine along_iff_of_inv _ (fun d e h hg ↦ ?_) (fun d e h ↦ (assigned_step happ fuel d e h).2) h0
  obtain ⟨hle, hfits⟩ := assigned_step happ fuel d e h
  exact ⟨hfits.mpr hg, hle⟩

private def sensor : Client.Identity := ⟨127, 1, 0, 1⟩

private def readEeprom : Packet :=
  { Packet.zero with
    cmd := RADIO_CMD_READ_EEPROM, len := 4, data := #v[1, 1, 0, 0, 0, 0, 0, 0, 0, 0] }

/-- A client that is activated as node 5 has a node ID that fits. -/
theorem node_id_fits_activation :
    NodeIdFits (run (Client.step (Client.feed [Client.activation sensor 1 5] true)
      Client.idleApp 0) (Client.start (Client.feed [Client.activation sensor 1 5] true) sensor 1 16
        (Client.powerOn 0)) Client.hear).radio :=
  (node_id_fits_iff (Client.feed [Client.activation sensor 1 5] true)
    (Client.leavesRadio_idleApp fun _ ↦ trivial) 0 sensor 1 16 (Client.powerOn 0)
    Client.hear).mpr (by decide +kernel) Client.hear (List.prefix_refl _)

/-- A client whose radio does not power up is activated as node 5 and asked for its EEPROM: it
falls asleep with its node ID. A client that is activated as node 0 is active without one. -/
theorem node_id_left_over :
    ¬ NodeIdFits (run (Client.step (Client.feed [Client.activation sensor 1 5, readEeprom] false)
      Client.idleApp 0)
      (Client.start (Client.feed [Client.activation sensor 1 5, readEeprom] false) sensor 1 16
        (Client.powerOn 0)) (Client.hear ++ Client.hear)).radio ∧
    ¬ NodeIdFits (run (Client.step (Client.feed [Client.activation sensor 1 0] true)
      Client.idleApp 0)
      (Client.start (Client.feed [Client.activation sensor 1 0] true) sensor 1 16
        (Client.powerOn 0)) Client.hear).radio := by
  decide +kernel

end Libradio
