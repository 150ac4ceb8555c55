import Libradio.Client.Commands
import Libradio.Client.Response

/-!
# What one pass of the loop can do to a client

A pass takes at most one packet; if it is accepted, its command is executed; then the `switch`
looks at the state. The properties of whole runs are derived from the cases listed here.
-/

namespace Libradio

variable {σ : Type}

/-- The application leaves the station alone, what it has heard, and what `R` says of the
chip. -/
structure App.LeavesRadio (app : App σ) (R : σ → σ → Prop) : Prop where
  operate : ∀ p d, Settled R d.radio.station d (app.operate p d)
  fetchStatus : ∀ i d, Settled R d.radio.station d (app.fetchStatus i d).1

/-- The application that does nothing leaves the radio alone. -/
theorem Client.leavesRadio_idleApp {R : σ → σ → Prop} (hR : ∀ w, R w w) :
    (Client.idleApp : App σ).LeavesRadio R :=
  ⟨fun _ d ↦ ⟨hR d.chip, rfl, rfl⟩, fun _ d ↦ ⟨hR d.chip, rfl, rfl⟩⟩

/-- There is a whole packet in the radio's FIFO, and its checksum is good. -/
def holdsGood (b : Board σ) (d : Dev σ) : Bool :=
  (libradioCheckRx b d).2 && (received b d).checksum = 0

/-- The radio has interrupted, and the next pass reads a good packet. -/
def Client.hears (b : Board σ) (d : Dev σ) : Bool := d.radio.irqFired ≠ 0 && holdsGood b d

/-- The packet that the next pass passes on to the command handling. -/
def Client.accepted (b : Board σ) (d : Dev σ) : Option Packet :=
  if Client.hears b d = true ∧ IsAddressed d.radio (received b d) then some (received b d)
  else none

/-- The device after the reception of `libradio_handle_packet`. -/
def afterRecv (b : Board σ) (ticks : Nat) (d : Dev σ) : Dev σ :=
  let r := libradioRecv b d d.rxchan.packet d.radio.myChannel
  { r.dev with
    rxchan := { r.dev.rxchan with packet := r.packet }
    radio := clockticks ticks r.dev.radio }

/-- The device as the command handling of the next pass gets it. -/
def Client.handed (b : Board σ) (ticks : Nat) (d : Dev σ) : Dev σ :=
  afterRecv b ticks { d with radio := libradioSetDelay 5 { d.radio with threadOk := false } }

/-- The packet asks for a response and the radio cannot be powered up for it. -/
def ResponseFails (b : Board σ) (app : App σ) (p : Packet) (d : Dev σ) : Prop :=
  (p.cmd = RADIO_CMD_STATUS ∧ p.len = 3 ∧ 0 < (app.fetchStatus (dataByte p.data 2) d).2 ∧
      PowerFails b (app.fetchStatus (dataByte p.data 2) d).1) ∨
    (p.cmd = RADIO_CMD_READ_EEPROM ∧ p.len = 4 ∧ PowerFails b d)

instance (b : Board σ) (app : App σ) (p : Packet) (d : Dev σ) :
    Decidable (ResponseFails b app p d) := inferInstanceAs (Decidable (_ ∨ _))

/-- What the command of a packet does to the station: nothing but the date, an activation, a
deactivation, or what comes of a response. -/
inductive Commanded (b : Board σ) (app : App σ) (R : σ → σ → Prop) (p : Packet) (d d' : Dev σ) :
    Prop
  | kept (act : ¬ IsActivation d.radio p) (deact : ¬ IsDeactivation d.radio p)
      (works : LIBRADIO_STATE_ACTIVE ≤ d.radio.state → ¬ ResponseFails b app p d) (date : UInt16)
      (station : d'.radio.station = { d.radio.station with date := date })
      (sawRx : d'.radio.sawRx = d.radio.sawRx) (chip : R d.chip d'.chip)
  | activated (act : IsActivation d.radio p)
      (eq : d' = { d with radio := d.radio.activated p })
  | deactivated (deact : IsDeactivation d.radio p)
      (eq : d' = { d with radio := d.radio.deactivated })
  | responded (act : ¬ IsActivation d.radio p) (deact : ¬ IsDeactivation d.radio p)
      (active : LIBRADIO_STATE_ACTIVE ≤ d.radio.state) (e : Dev σ)
      (settled : Settled R d.radio.station d e) (fails : PowerFails b e ↔ ResponseFails b app p d)
      (responded : Responded b R e d')

/-- Every command does one of these to the station. -/
theorem commanded_libradioCommand {b : Board σ} {R : σ → σ → Prop} (hb : b.Carries R)
    {app : App σ} (happ : app.LeavesRadio R) (fuel : Nat) (p : Packet) (d : Dev σ) :
    Commanded b app R p d (libradioCommand b app fuel p d) := by
  have hother {c : UInt8} (hcmd : p.cmd = c) (ha : c ≠ RADIO_CMD_ACTIVATE)
      (hd : c ≠ RADIO_CMD_DEACTIVATE) : ¬ IsActivation d.radio p ∧ ¬ IsDeactivation d.radio p :=
    ⟨fun h ↦ ha (hcmd ▸ h.1), fun h ↦ hd (hcmd ▸ h.1)⟩
  have hworks {c : UInt8} (hcmd : p.cmd = c) (hs : c ≠ RADIO_CMD_STATUS)
      (hr : c ≠ RADIO_CMD_READ_EEPROM) : ¬ ResponseFails b app p d := by
    rintro (h | h)
    · exact hs (hcmd ▸ h.1)
    · exact hr (hcmd ▸ h.1)
  cases executed_libradioCommand b app fuel p d with
  | nothing act deact request eq =>
    have hw (hactive : LIBRADIO_STATE_ACTIVE ≤ d.radio.state) : ¬ ResponseFails b app p d := by
      rintro (h | h)
      · exact request hactive (.inl ⟨h.1, h.2.1⟩)
      · exact request hactive (.inr ⟨h.1, h.2.1⟩)
    rw [eq]
    exact .kept act deact hw d.radio.date rfl rfl (hb.refl _)
  | activated act eq => exact .activated act eq
  | deactivated deact eq => exact .deactivated deact eq
  | setTime active cmd len eq =>
    obtain ⟨hact, hdeact⟩ := hother cmd (by decide) (by decide)
    have hw := hworks cmd (by decide) (by decide)
    rw [eq]
    exact .kept hact hdeact (fun _ ↦ hw) d.radio.date rfl rfl (hb.refl _)
  | setDate active cmd len eq =>
    obtain ⟨hact, hdeact⟩ := hother cmd (by decide) (by decide)
    have hw := hworks cmd (by decide) (by decide)
    rw [eq]
    exact .kept hact hdeact (fun _ ↦ hw) _ rfl rfl (hb.refl _)
  | silent active cmd len none eq =>
    obtain ⟨hact, hdeact⟩ := hother cmd (by decide) (by decide)
    have hsettled := happ.fetchStatus (dataByte p.data 2) d
    have hw : ¬ ResponseFails b app p d := by
      rintro (h | h)
      · rw [none] at h
        exact absurd h.2.2.1 (Nat.lt_irrefl 0)
      · exact absurd (cmd.symm.trans h.1) (by decide)
    rw [← eq] at hsettled
    exact .kept hact hdeact (fun _ ↦ hw) d.radio.date hsettled.station
      (congrArg Heard.sawRx hsettled.heard) hsettled.chip
  | status active cmd len some eq =>
    obtain ⟨hact, hdeact⟩ := hother cmd (by decide) (by decide)
    have hsettled := happ.fetchStatus (dataByte p.data 2) d
    have hfails : PowerFails b (app.fetchStatus (dataByte p.data 2) d).1 ↔
        ResponseFails b app p d := by
      refine ⟨fun h ↦ .inl ⟨cmd, len, some, h⟩, ?_⟩
      rintro (h | h)
      · exact h.2.2.2
      · exact absurd (cmd.symm.trans h.1) (by decide)
    rw [eq]
    exact .responded hact hdeact active _ hsettled hfails
      (responded_libradioSendResponse hb fuel _ _ _ _ _ _)
  | readEeprom buffer addr active cmd len eq =>
    obtain ⟨hact, hdeact⟩ := hother cmd (by decide) (by decide)
    have hfails : PowerFails b { d with statusbuffer := buffer } ↔ ResponseFails b app p d := by
      refine ⟨fun h ↦ .inr ⟨cmd, len, h⟩, ?_⟩
      rintro (h | h)
      · exact absurd (cmd.symm.trans h.1) (by decide)
      · exact h.2.2
    rw [eq]
    exact .responded hact hdeact active { d with statusbuffer := buffer }
      ⟨hb.refl _, rfl, rfl⟩ hfails
      (responded_libradioSendResponse hb fuel _ _ _ _ _ _)
  | writeEeprom eeprom active cmd eq =>
    obtain ⟨hact, hdeact⟩ := hother cmd (by decide) (by decide)
    have hw := hworks cmd (by decide) (by decide)
    rw [eq]
    exact .kept hact hdeact (fun _ ↦ hw) d.radio.date rfl rfl (hb.refl _)
  | operate active cmd eq =>
    have hne (c : UInt8) (hc : ¬ RADIO_EEPROM_RESPONSE < c) : p.cmd ≠ c := fun h ↦ hc (h ▸ cmd)
    have hw : ¬ ResponseFails b app p d := by
      rintro (h | h)
      · exact hne RADIO_CMD_STATUS (by decide) h.1
      · exact hne RADIO_CMD_READ_EEPROM (by decide) h.1
    have hsettled := happ.operate p d
    rw [← eq] at hsettled
    exact .kept (fun h ↦ hne RADIO_CMD_ACTIVATE (by decide) h.1)
      (fun h ↦ hne RADIO_CMD_DEACTIVATE (by decide) h.1) (fun _ ↦ hw) d.radio.date
      hsettled.station (congrArg Heard.sawRx hsettled.heard) hsettled.chip

/-- What a pass does before its `switch`: no packet is accepted and the station stays as it is,
or the command of the accepted packet is executed. -/
inductive Handled (b : Board σ) (app : App σ) (R : σ → σ → Prop) (ticks : Nat) (d d' : Dev σ) :
    Prop
  | quiet (none : Client.accepted b d = none) (station : d'.radio.station = d.radio.station)
      (sawRx : d'.radio.sawRx = (d.radio.sawRx || Client.hears b d)) (chip : R d.chip d'.chip)
  | command (p : Packet) (some : Client.accepted b d = some p) (e e' : Dev σ)
      (handed : e = Client.handed b ticks d)
      (station : e.radio.station = d.radio.station) (sawRx : e.radio.sawRx = true)
      (chip : R d.chip e.chip) (command : Commanded b app R p e e')
      (station' : d'.radio.station = e'.radio.station) (sawRx' : d'.radio.sawRx = e'.radio.sawRx)
      (chip' : R e'.chip d'.chip)

/-! ### The part before the switch -/

/-- Clock interrupts hear nothing. -/
@[simp] theorem sawRx_clockticks (n : Nat) (r : Radio) : (clockticks n r).sawRx = r.sawRx := by
  have huntimed (r : Radio) : r.untimed.sawRx = r.sawRx := rfl
  rw [← huntimed, untimed_clockticks, huntimed]

/-- Listening again hears nothing. -/
@[simp] theorem sawRx_rearm (r : Radio) : r.rearm.sawRx = r.sawRx := by
  unfold Radio.rearm
  split <;> rfl

/-- What the FIFO holds depends on the chip alone. -/
theorem libradioCheckRx_chip (b : Board σ) {d d' : Dev σ} (h : d'.chip = d.chip) :
    (libradioCheckRx b d').2 = (libradioCheckRx b d).2 ∧
      (libradioCheckRx b d').1.chip = (libradioCheckRx b d).1.chip := by
  unfold libradioCheckRx libradioGetFifoInfo
  rw [h]
  dsimp only
  generalize b.exchange d.chip [SI4463_FIFO_INFO, 0] 2 = x
  split <;> exact ⟨rfl, rfl⟩

private theorem received_chip (b : Board σ) {d d' : Dev σ} (h : d'.chip = d.chip) :
    received b d' = received b d := by
  rw [received, (libradioCheckRx_chip b h).2, received]

private theorem holdsGood_chip (b : Board σ) {d d' : Dev σ} (h : d'.chip = d.chip) :
    holdsGood b d' = holdsGood b d := by
  rw [holdsGood, (libradioCheckRx_chip b h).1, received_chip b h, holdsGood]

/-- The filter looks at the station. -/
theorem isAddressed_station {r r' : Radio} (h : r'.station = r.station) (p : Packet) :
    IsAddressed r' p ↔ IsAddressed r p := by
  have hid := congrArg Station.myNodeId h
  unfold IsAddressed
  rw [show r'.myNodeId = r.myNodeId from hid]

/-- An activation is one for the station. -/
theorem isActivation_station {r r' : Radio} (h : r'.station = r.station) (p : Packet) :
    IsActivation r' p ↔ IsActivation r p := by
  have h1 := congrArg Station.cat1 h
  have h2 := congrArg Station.cat2 h
  have h3 := congrArg Station.num1 h
  have h4 := congrArg Station.num2 h
  unfold IsActivation CarriesIdentity
  rw [show r'.cat1 = r.cat1 from h1, show r'.cat2 = r.cat2 from h2,
    show r'.num1 = r.num1 from h3, show r'.num2 = r.num2 from h4]

/-- A deactivation looks at the state. -/
theorem isDeactivation_station {r r' : Radio} (h : r'.station = r.station) (p : Packet) :
    IsDeactivation r' p ↔ IsDeactivation r p := by
  have hs := congrArg Station.state h
  unfold IsDeactivation
  rw [show r'.state = r.state from hs]

/-- An accepted packet was received. -/
theorem hears_of_accepted {b : Board σ} {d : Dev σ} {p : Packet}
    (h : Client.accepted b d = some p) : Client.hears b d = true := by
  unfold Client.accepted at h
  split at h
  · next hc => exact hc.1
  · cases h

/-- Without a radio interrupt no packet is read. -/
theorem accepted_of_not_irq {b : Board σ} {d : Dev σ} (h : ¬ d.radio.irqFired ≠ 0) :
    Client.accepted b d = none ∧ Client.hears b d = false := by
  have hhears : Client.hears b d = false := by
    unfold Client.hears
    simp only [h, decide_false, Bool.false_and]
  refine ⟨?_, hhears⟩
  unfold Client.accepted
  rw [if_neg fun hc ↦ by rw [hhears] at hc; cases hc.1]

/-- An accepted packet comes with an interrupt of the radio. -/
theorem irqFired_of_accepted {b : Board σ} {d : Dev σ} {p : Packet}
    (h : Client.accepted b d = some p) : d.radio.irqFired ≠ 0 := fun hc ↦ by
  rw [(accepted_of_not_irq (b := b) (not_not_intro hc)).1] at h
  cases h

/-- An activation makes the assignment of its first two bytes. -/
theorem station_activated (p : Packet) (r : Radio) :
    ∃ timeout period, (r.activated p).station = { r.station with
      state := LIBRADIO_STATE_ACTIVE, myChannel := dataByte p.data 0
      myNodeId := dataByte p.data 1, timeout := timeout, period := period } :=
  station_libradioSetState_active
    { r with myChannel := dataByte p.data 0, myNodeId := dataByte p.data 1 }

/-- A deactivation takes the assignment back. -/
theorem station_deactivated (r : Radio) :
    ∃ period, r.deactivated.station = { r.station with
      state := LIBRADIO_STATE_WARM, myChannel := 0, myNodeId := 0, period := period } :=
  station_libradioSetState_warm { r with myChannel := 0, myNodeId := 0 }

-- The questions after a packet change nothing but the chip.
private theorem quiet_end {b : Board σ} {R : σ → σ → Prop} (hb : b.Keeps R) (d : Dev σ) :
    let d' := libradioGetIntStatus b d
    (libradioIrqEnable 1 d'.radio).station = d.radio.station ∧
      (libradioIrqEnable 1 d'.radio).sawRx = d.radio.sawRx ∧ R d.chip d'.chip :=
  ⟨rfl, rfl, (asked_libradioGetIntStatus hb d).chip⟩

/-- What `libradio_handle_packet` does: a good packet for this station is passed on to the
command handling, or the station stays as it is. -/
inductive Taken (b : Board σ) (app : App σ) (fuel ticks : Nat) (R : σ → σ → Prop)
    (d d' : Dev σ) : Prop
  | passed (good : holdsGood b d = true) (addressed : IsAddressed d.radio (received b d))
      (e : Dev σ) (handed : e = afterRecv b ticks d)
      (station : e.radio.station = d.radio.station) (sawRx : e.radio.sawRx = true)
      (chip : R d.chip e.chip) (eq : d' = libradioCommand b app fuel (received b d) e)
  | dropped (not : ¬ (holdsGood b d = true ∧ IsAddressed d.radio (received b d)))
      (station : d'.radio.station = d.radio.station)
      (sawRx : d'.radio.sawRx = (d.radio.sawRx || holdsGood b d)) (chip : R d.chip d'.chip)

/-- A reception leaves the station alone, and a good packet is seen. -/
theorem afterRecv_spec {b : Board σ} {R : σ → σ → Prop} (hb : b.Keeps R) (ticks : Nat) (d : Dev σ)
    (hrx : ∀ w, R w (b.exchange w (startRx d.radio.myChannel) 0).1) :
    (afterRecv b ticks d).radio.station = d.radio.station ∧
      (afterRecv b ticks d).radio.sawRx = (d.radio.sawRx || holdsGood b d) ∧
      R d.chip (afterRecv b ticks d).chip := by
  have hrecv := reception_libradioRecv hb hrx d d.rxchan.packet
  unfold afterRecv
  dsimp only
  generalize libradioRecv b d d.rxchan.packet d.radio.myChannel = r at hrecv ⊢
  rw [station_clockticks, sawRx_clockticks]
  cases hrecv with
  | nothing ok packet few asked =>
    have hstation := congrArg Radio.station asked.radio
    have hsaw := congrArg Radio.sawRx asked.radio
    have hgood : holdsGood b d = false := by rw [holdsGood, few, Bool.false_and]
    rw [hgood, Bool.or_false]
    exact ⟨hstation, hsaw, asked.chip⟩
  | damaged ok many packet sum asked =>
    have hstation := (congrArg Radio.station asked.radio).trans (station_rearm d.radio)
    have hsaw := (congrArg Radio.sawRx asked.radio).trans (sawRx_rearm d.radio)
    have hgood : holdsGood b d = false := by
      rw [holdsGood, many, Bool.true_and, ← packet, decide_eq_false sum]
    rw [hgood, Bool.or_false]
    exact ⟨hstation, hsaw, asked.chip⟩
  | good ok many packet sum asked =>
    have hstation : r.dev.radio.station = d.radio.station :=
      (congrArg Radio.station asked.radio).trans (by simp)
    have hsaw : r.dev.radio.sawRx = true :=
      (congrArg Radio.sawRx asked.radio).trans (sawRx_rearm (d.radio.accept r.packet))
    have hgood : holdsGood b d = true := by
      rw [holdsGood, many, Bool.true_and, ← packet, decide_eq_true sum]
    rw [hgood, Bool.or_true]
    exact ⟨hstation, hsaw, asked.chip⟩

/-- `libradio_handle_packet` passes on a good packet for this station. -/
theorem libradioHandlePacket_eq (b : Board σ) (app : App σ) (fuel ticks : Nat) (d : Dev σ) :
    libradioHandlePacket b app fuel ticks d =
      if holdsGood b d = true ∧ IsAddressed d.radio (received b d) then
        libradioCommand b app fuel (received b d) (afterRecv b ticks d)
      else afterRecv b ticks d := by
  have haddr := isAddressed_station (afterRecv_spec b.keeps_true ticks d fun _ ↦ trivial).1
    (received b d)
  have hrecv : Reception (fun _ _ ↦ True) b d d.rxchan.packet
      (libradioRecv b d d.rxchan.packet d.radio.myChannel) :=
    reception_libradioRecv b.keeps_true (fun _ ↦ trivial) d d.rxchan.packet
  unfold libradioHandlePacket
  unfold afterRecv at haddr ⊢
  dsimp only at haddr ⊢
  generalize libradioRecv b d d.rxchan.packet d.radio.myChannel = r at hrecv haddr ⊢
  cases hrecv with
  | nothing ok packet few asked =>
    have hgood : holdsGood b d = false := by rw [holdsGood, few, Bool.false_and]
    rw [ok, if_neg Bool.false_ne_true, hgood, if_neg fun h ↦ Bool.false_ne_true h.1]
  | damaged ok many packet sum asked =>
    have hgood : holdsGood b d = false := by
      rw [holdsGood, many, Bool.true_and, ← packet, decide_eq_false sum]
    rw [ok, if_neg Bool.false_ne_true, hgood, if_neg fun h ↦ Bool.false_ne_true h.1]
  | good ok many packet sum asked =>
    have hgood : holdsGood b d = true := by
      rw [holdsGood, many, Bool.true_and, ← packet, decide_eq_true sum]
    rw [ok, if_pos rfl, packet]
    unfold IsAddressed at haddr ⊢
    rw [hgood]
    simp only [haddr, true_and]

/-- Every packet is handled in one of these ways. -/
theorem taken_libradioHandlePacket {b : Board σ} {R : σ → σ → Prop} (hb : b.Keeps R)
    (app : App σ) (fuel ticks : Nat) (d : Dev σ)
    (hrx : ∀ w, R w (b.exchange w (startRx d.radio.myChannel) 0).1) :
    Taken b app fuel ticks R d (libradioHandlePacket b app fuel ticks d) := by
  obtain ⟨hstation, hsaw, hchip⟩ := afterRecv_spec hb ticks d hrx
  rw [libradioHandlePacket_eq]
  by_cases htaken : holdsGood b d = true ∧ IsAddressed d.radio (received b d)
  · rw [if_pos htaken]
    rw [htaken.1, Bool.or_true] at hsaw
    exact .passed htaken.1 htaken.2 (afterRecv b ticks d) rfl hstation hsaw hchip rfl
  · rw [if_neg htaken]
    exact .dropped htaken hstation hsaw hchip

/-- A pass after an interrupt of the radio: an accepted packet is a command. -/
theorem rxloopHandle_of_irq (b : Board σ) (app : App σ) (fuel ticks : Nat) {d : Dev σ}
    (hirq : d.radio.irqFired ≠ 0) :
    rxloopHandle b app fuel ticks d =
      let f := libradioGetIntStatus b ((Client.accepted b d).elim (Client.handed b ticks d)
        fun p ↦ libradioCommand b app fuel p (Client.handed b ticks d))
      { f with radio := libradioIrqEnable 1 f.radio } := by
  have hgood (r : Radio) : holdsGood b { d with radio := r } = holdsGood b d := holdsGood_chip b rfl
  have hpacket (r : Radio) : received b { d with radio := r } = received b d :=
    received_chip b rfl
  have hhandle (r : Radio) (hr : r.station = d.radio.station) :
      libradioHandlePacket b app fuel ticks { d with radio := r } =
        (Client.accepted b d).elim (afterRecv b ticks { d with radio := r })
          fun p ↦ libradioCommand b app fuel p (afterRecv b ticks { d with radio := r }) := by
    have haddr := isAddressed_station hr (received b d)
    rw [libradioHandlePacket_eq, hgood, hpacket]
    unfold Client.accepted Client.hears
    rw [decide_eq_true hirq, Bool.true_and]
    by_cases htaken : holdsGood b d = true ∧ IsAddressed d.radio (received b d)
    · rw [if_pos htaken, if_pos ⟨htaken.1, haddr.mpr htaken.2⟩]
      rfl
    · rw [if_neg htaken, if_neg fun h ↦ htaken ⟨h.1, haddr.mp h.2⟩]
      rfl
  have hwoken := hhandle (libradioSetDelay 5 { d.radio with threadOk := false }) rfl
  unfold rxloopHandle rxloopReceive
  dsimp only
  rw [if_pos hirq, hwoken]
  rfl

/-- What the command handling gets: the station as it was, with a good packet seen. -/
theorem handed_spec {b : Board σ} {R : σ → σ → Prop} (hb : b.Keeps R) (ticks : Nat) {d : Dev σ}
    (hirq : d.radio.irqFired ≠ 0) (hrx : ∀ w, R w (b.exchange w (startRx d.radio.myChannel) 0).1) :
    (Client.handed b ticks d).radio.station = d.radio.station ∧
      (Client.handed b ticks d).radio.sawRx = (d.radio.sawRx || Client.hears b d) ∧
      R d.chip (Client.handed b ticks d).chip := by
  have hspec := afterRecv_spec hb ticks
    { d with radio := libradioSetDelay 5 { d.radio with threadOk := false } } hrx
  have hgood : holdsGood b { d with radio := libradioSetDelay 5 { d.radio with
      threadOk := false } } = holdsGood b d := holdsGood_chip b rfl
  have hhears : Client.hears b d = holdsGood b d := by
    unfold Client.hears
    rw [decide_eq_true hirq, Bool.true_and]
  rw [hgood] at hspec
  rw [hhears]
  exact hspec

/-- Every pass handles at most one packet. -/
theorem handled_rxloopHandle {b : Board σ} {R : σ → σ → Prop} (hb : b.Carries R) {app : App σ}
    (happ : app.LeavesRadio R) (fuel ticks : Nat) (d : Dev σ)
    (hrx : ∀ w, R w (b.exchange w (startRx d.radio.myChannel) 0).1) :
    Handled b app R ticks d (rxloopHandle b app fuel ticks d) := by
  by_cases hirq : d.radio.irqFired ≠ 0
  · obtain ⟨hstation, hsaw, hchip⟩ := handed_spec hb.toKeeps ticks hirq hrx
    rw [rxloopHandle_of_irq b app fuel ticks hirq]
    cases haccepted : Client.accepted b d with
    | none =>
      obtain ⟨hst, hsaw', hchip'⟩ := quiet_end hb.toKeeps (Client.handed b ticks d)
      exact .quiet haccepted (hst.trans hstation) (hsaw'.trans hsaw) (hb.trans hchip hchip')
    | some p =>
      obtain ⟨hst, hsaw', hchip'⟩ := quiet_end hb.toKeeps
        (libradioCommand b app fuel p (Client.handed b ticks d))
      rw [hears_of_accepted haccepted, Bool.or_true] at hsaw
      exact .command p haccepted (Client.handed b ticks d) _ rfl hstation hsaw hchip
        (commanded_libradioCommand hb happ fuel p _) hst hsaw' hchip'
  · obtain ⟨hnone, hhears⟩ := accepted_of_not_irq (b := b) hirq
    unfold rxloopHandle
    rw [if_neg hirq]
    exact .quiet hnone rfl (by rw [hhears, Bool.or_false]) (hb.refl _)

/-- The station after the command of an accepted packet is the station after the pass. -/
theorem rxloopHandle_of_accepted {b : Board σ} (app : App σ) (fuel ticks : Nat) {d : Dev σ}
    {p : Packet} (h : Client.accepted b d = some p) :
    ∃ e : Dev σ, e.radio.station = d.radio.station ∧
      (rxloopHandle b app fuel ticks d).radio.station =
        (libradioCommand b app fuel p e).radio.station := by
  have hirq := irqFired_of_accepted h
  have hstation := (handed_spec b.keeps_true ticks hirq fun _ ↦ trivial).1
  rw [rxloopHandle_of_irq b app fuel ticks hirq, h]
  exact ⟨Client.handed b ticks d, hstation, rfl⟩

/-- A pass has dealt with the interrupt of the radio. -/
theorem irqFired_rxloopHandle (b : Board σ) (app : App σ) (fuel ticks : Nat) (d : Dev σ) :
    (rxloopHandle b app fuel ticks d).radio.irqFired = 0 := by
  unfold rxloopHandle
  split
  · rfl
  · next h =>
    exact Decidable.not_not.mp h

/-! ### The switch -/

/-- What the `switch` does to the station. -/
inductive Switched (r r' : Radio) : Prop
  | recovered (error : r.state = LIBRADIO_STATE_ERROR) (period : UInt8)
      (station : r'.station = { r.station with state := LIBRADIO_STATE_WARM, period := period })
  | woken (asleep : IsAsleep r.state) (timeout : UInt16) (period : UInt8)
      (station : r'.station = { r.station with
        state := LIBRADIO_STATE_LISTEN, myChannel := 0, timeout := timeout, period := period })
  | listening (listen : r.state = LIBRADIO_STATE_LISTEN) (eq : r' = r)
  | waiting (error : r.state ≠ LIBRADIO_STATE_ERROR) (asleep : ¬ IsAsleep r.state)
      (seen : r.sawRx = true ∨ r.timeout ≠ 1) (timeout : UInt16)
      (station : r'.station = { r.station with timeout := timeout })
  | silent (error : r.state ≠ LIBRADIO_STATE_ERROR) (asleep : ¬ IsAsleep r.state)
      (listen : r.state ≠ LIBRADIO_STATE_LISTEN) (unseen : r.sawRx = false)
      (expired : r.timeout = 1) (timeout : UInt16) (period : UInt8)
      (station : r'.station = { r.station with
        state := LIBRADIO_STATE_WARM, timeout := timeout, period := period })

/-- The `switch` does one of these. -/
theorem switched_rxloopSwitch (r : Radio) : Switched r (rxloopSwitch r) := by
  unfold rxloopSwitch
  by_cases herror : r.state = LIBRADIO_STATE_ERROR
  · rw [if_pos herror]
    obtain ⟨period, h⟩ := station_libradioSetState_warm r
    exact .recovered herror period h
  rw [if_neg herror]
  by_cases hasleep : IsAsleep r.state
  · rw [if_pos hasleep]
    have hne : r.state ≠ LIBRADIO_STATE_LISTEN := fun h ↦ by
      rw [h] at hasleep
      exact absurd hasleep (by decide)
    obtain ⟨timeout, period, h⟩ := station_libradioSetState_listen hne
    exact .woken hasleep timeout period h
  rw [if_neg hasleep]
  by_cases hlisten : r.state = LIBRADIO_STATE_LISTEN
  · rw [if_pos hlisten]
    exact .listening hlisten rfl
  rw [if_neg hlisten]
  unfold rxloopActive
  dsimp only
  by_cases hsaw : r.sawRx = true
  · have hlong : ¬ (60000 : UInt16) - 1 = 0 := by decide
    rw [if_pos hsaw, if_neg hlong]
    exact .waiting herror hasleep (.inl hsaw) _ rfl
  · rw [if_neg hsaw]
    by_cases hover : r.timeout = 1
    · have hzero : r.timeout - 1 = 0 := by rw [hover]; rfl
      rw [if_pos hzero]
      obtain ⟨period, h⟩ := station_libradioSetState_warm { r with timeout := r.timeout - 1 }
      exact .silent herror hasleep hlisten (by simpa using hsaw) hover _ period h
    · have hnonzero : ¬ r.timeout - 1 = 0 := fun h ↦ hover (by grind)
      rw [if_neg hnonzero]
      exact .waiting herror hasleep (.inr hover) _ rfl

/-- A pass with a reason to wake up is the handling of a packet and then the `switch`. -/
theorem libradioRxloop_of_wakes (b : Board σ) (app : App σ) (fuel ticks : Nat) {serial : Bool}
    {d : Dev σ} (h : Wakes serial d.radio) :
    libradioRxloop b app fuel ticks serial d =
      { rxloopHandle b app fuel ticks d with
        radio := rxloopSwitch (rxloopHandle b app fuel ticks d).radio } := by
  rw [libradioRxloop, if_pos h]

/-- Without a reason to wake up nothing happens. -/
theorem libradioRxloop_of_not_wakes (b : Board σ) (app : App σ) (fuel ticks : Nat) {serial : Bool}
    {d : Dev σ} (h : ¬ Wakes serial d.radio) : libradioRxloop b app fuel ticks serial d = d := by
  rw [libradioRxloop, if_neg h]

/-- A clock interrupt and an interrupt of the radio leave the station and the chip alone. -/
theorem Client.step_of_not_pass (b : Board σ) (app : App σ) (fuel : Nat) (d : Dev σ)
    {e : Client.Event} (h : e = .tick ∨ e = .interrupt) :
    (Client.step b app fuel d e).radio.station = d.radio.station ∧
      (Client.step b app fuel d e).chip = d.chip := by
  rcases h with rfl | rfl
  · have htick : Client.step b app fuel d .tick = { d with radio := clocktick d.radio } := rfl
    rw [htick]
    dsimp only
    exact ⟨station_clocktick d.radio, rfl⟩
  · have hirq : Client.step b app fuel d .interrupt =
        if d.radio.int0Enabled then { d with radio := radioIrq d.radio } else d := rfl
    rw [hirq]
    split <;> exact ⟨rfl, rfl⟩

end Libradio
