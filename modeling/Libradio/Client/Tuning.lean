import Libradio.Client.Pass
import Libradio.Client.Start
import Libradio.Client.Traffic

/-!
# The channel a client listens on

The radio is tuned inside a reception and at the end of a response, always to the channel the
client had before the packet was handled. An activation, a deactivation and the way back to
LISTEN change the channel after that, and the radio stays where it was until it interrupts
again.
-/

namespace Libradio
open Libradio.Base

variable {σ : Type}

/-- The channel that a command tunes the radio to. -/
def Op.tunes : Op → Option UInt8
  | command bytes => if bytes.head? = some SI4463_START_RX then bytes[1]? else none
  | fill _ => none
  | read _ => none
  | operate _ => none

/-- The channel last given to the radio with START_RX. -/
def Logged.tuned (w : Logged σ) : Option UInt8 := w.log.findSome? Op.tunes

/-- The radio listens on the client's channel. -/
def Tuned (d : Dev (Logged σ)) : Prop := d.chip.tuned = some d.radio.myChannel

instance (d : Dev (Logged σ)) : Decidable (Tuned d) := inferInstanceAs (Decidable (_ = _))

/-- The next pass executes an activation for another channel. -/
def MovesByActivation (b : Board σ) (d : Dev σ) : Prop :=
  ∃ p ∈ Client.accepted b d, IsActivation d.radio p ∧ dataByte p.data 0 ≠ d.radio.myChannel

/-- The next pass executes a deactivation on a channel other than 0. -/
def MovesByDeactivation (b : Board σ) (d : Dev σ) : Prop :=
  ∃ p ∈ Client.accepted b d, IsDeactivation d.radio p ∧ d.radio.myChannel ≠ 0

/-- The next pass goes back to LISTEN from a channel other than 0. -/
def MovesByWaking (b : Board σ) (d : Dev σ) : Prop :=
  IsAsleep d.radio.state ∧ d.radio.myChannel ≠ 0 ∧
    ¬ ∃ p ∈ Client.accepted b d, IsActivation d.radio p

instance (b : Board σ) (d : Dev σ) : Decidable (MovesByActivation b d) :=
  inferInstanceAs (Decidable (∃ p ∈ Client.accepted b d, _))

instance (b : Board σ) (d : Dev σ) : Decidable (MovesByDeactivation b d) :=
  inferInstanceAs (Decidable (∃ p ∈ Client.accepted b d, _))

instance (b : Board σ) (d : Dev σ) : Decidable (MovesByWaking b d) :=
  inferInstanceAs (Decidable (_ ∧ _ ∧ ¬ ∃ p ∈ Client.accepted b d, _))

/-- An event that changes the channel in none of the three ways. -/
def KeepsChannel (b : Board σ) (d : Dev σ) : Client.Event → Prop
  | .tick => True
  | .interrupt => True
  | .pass _ serial => Wakes serial d.radio →
      ¬ MovesByActivation b d ∧ ¬ MovesByDeactivation b d ∧ ¬ MovesByWaking b d

instance (b : Board σ) (d : Dev σ) : (e : Client.Event) → Decidable (KeepsChannel b d e)
  | .tick => inferInstanceAs (Decidable True)
  | .interrupt => inferInstanceAs (Decidable True)
  | .pass _ _ => inferInstanceAs (Decidable (_ → _))

/-! ### What is said to the radio -/

/-- The radio was left alone or tuned to `channel` in between. -/
def Retuned (channel : UInt8) (w w' : Logged σ) : Prop :=
  w'.tuned = w.tuned ∨ w'.tuned = some channel

private theorem tuned_of_cons {w w' : Logged σ} {op : Op} (h : w'.log = op :: w.log)
    (hop : op.tunes = none) : w'.tuned = w.tuned := by
  rw [Logged.tuned, h, List.findSome?_cons, hop]
  rfl

private theorem tuned_startRx (b : Board σ) (channel : UInt8) (w : Logged σ) :
    (b.logged.exchange w (startRx channel) 0).1.tuned = some channel := rfl

private theorem tunes_of_ne {cmd : List UInt8} (h : cmd.head? ≠ some SI4463_START_RX) :
    (Op.command cmd).tunes = none := by
  rw [Op.tunes, if_neg h]

/-- Everything but START_RX leaves the radio on its channel. -/
theorem carries_retuned (b : Board σ) (channel : UInt8) : b.logged.Carries (Retuned channel) where
  refl _ := .inl rfl
  trans := by
    rintro u v w huv (hvw | hvw)
    · rcases huv with huv | huv
      · exact .inl (hvw.trans huv)
      · exact .inr (hvw.trans huv)
    · exact .inr hvw
  exchange _ _ _ _ hrx := .inl (tuned_of_cons rfl (tunes_of_ne hrx))
  readRxFifo _ _ := .inl (tuned_of_cons rfl rfl)
  startTx _ cmd _ htx := by
    have hne : cmd.head? ≠ some SI4463_START_RX := by
      rw [htx]
      decide
    exact .inl (tuned_of_cons rfl (tunes_of_ne hne))
  writeTxFifo _ _ := .inl (tuned_of_cons rfl rfl)

/-- Questions leave the radio on its channel. -/
theorem keeps_tuned (b : Board σ) : b.logged.Keeps fun w w' ↦ w'.tuned = w.tuned where
  refl _ := rfl
  trans huv hvw := hvw.trans huv
  exchange _ _ _ _ hrx := tuned_of_cons rfl (tunes_of_ne hrx)
  readRxFifo _ _ := tuned_of_cons rfl rfl

/-- An application that leaves the radio on its channel does so across more, too. -/
theorem App.LeavesRadio.retuned {app : App (Logged σ)}
    (h : app.LeavesRadio fun w w' ↦ w'.tuned = w.tuned) (channel : UInt8) :
    app.LeavesRadio (Retuned channel) :=
  ⟨fun p d ↦ ⟨.inl (h.operate p d).chip, (h.operate p d).station, (h.operate p d).heard⟩,
    fun i d ↦ ⟨.inl (h.fetchStatus i d).chip, (h.fetchStatus i d).station,
      (h.fetchStatus i d).heard⟩⟩

/-! ### One pass -/

/-- The `switch` goes to channel 0 where it goes to LISTEN. -/
theorem myChannel_rxloopSwitch (r : Radio) :
    (rxloopSwitch r).myChannel = (if IsAsleep r.state then 0 else r.myChannel) ∧
      (rxloopSwitch r).radioActive = r.radioActive := by
  have hof {s : Station} (h : (rxloopSwitch r).station = s) :
      (rxloopSwitch r).myChannel = s.myChannel ∧ (rxloopSwitch r).radioActive = s.radioActive :=
    ⟨congrArg Station.myChannel h, congrArg Station.radioActive h⟩
  cases switched_rxloopSwitch r with
  | recovered error period station =>
    have hawake : ¬ IsAsleep r.state := by rw [error]; decide
    rw [if_neg hawake]
    exact hof station
  | woken asleep timeout period station =>
    rw [if_pos asleep]
    exact hof station
  | listening listen eq =>
    have hawake : ¬ IsAsleep r.state := by rw [listen]; decide
    rw [if_neg hawake, eq]
    exact ⟨rfl, rfl⟩
  | waiting error asleep seen timeout station =>
    rw [if_neg asleep]
    exact hof station
  | silent error asleep listen unseen expired timeout period station =>
    rw [if_neg asleep]
    exact hof station

/-- In ACTIVE and above nobody is asleep. -/
theorem not_isAsleep_of_active {state : UInt8} (h : LIBRADIO_STATE_ACTIVE ≤ state) :
    ¬ IsAsleep state := by
  rintro (hs | hs | hs) <;> rw [hs] at h <;> exact absurd h (by decide)

/-- Where the `switch` leaves the radio if the rest of the pass left it on `channel`. -/
theorem tuned_rxloopSwitch {d : Dev (Logged σ)} {channel : UInt8}
    (h : d.chip.tuned = some channel) :
    Tuned { d with radio := rxloopSwitch d.radio } ↔
      channel = if IsAsleep d.radio.state then 0 else d.radio.myChannel := by
  unfold Tuned
  dsimp only
  rw [h, (myChannel_rxloopSwitch d.radio).1, Option.some_inj]

/-- What a command leaves for the `switch` while the radio is powered up. -/
structure Moved (p : Packet) (d d' : Dev (Logged σ)) : Prop where
  up : d'.radio.radioActive = true
  chip : Retuned d.radio.myChannel d.chip d'.chip
  channel : (if IsAsleep d'.radio.state then 0 else d'.radio.myChannel) =
    if IsActivation d.radio p then dataByte p.data 0
    else if IsDeactivation d.radio p then 0
    else if IsAsleep d.radio.state then 0 else d.radio.myChannel

private theorem moved_commanded {b : Board σ} {app : App (Logged σ)} {p : Packet}
    {d d' : Dev (Logged σ)}
    (hup : d.radio.radioActive = true)
    (hc : Commanded b.logged app (Retuned d.radio.myChannel) p d d') : Moved p d d' := by
  have hrefl : Retuned d.radio.myChannel d.chip d.chip := .inl rfl
  have hlost {e : Dev (Logged σ)} (hs : e.radio.station = d.radio.station) :
      ¬ PowerFails b.logged e := fun h ↦ by
    have hactive := congrArg Station.radioActive hs
    exact absurd (h.1.symm.trans (hactive.trans hup)) Bool.false_ne_true
  cases hc with
  | kept act deact works date station sawRx chip =>
    have hstate : d'.radio.state = d.radio.state := congrArg Station.state station
    have hchannel : d'.radio.myChannel = d.radio.myChannel := congrArg Station.myChannel station
    refine ⟨(congrArg Station.radioActive station).trans hup, chip, ?_⟩
    rw [if_neg act, if_neg deact, hstate, hchannel]
  | activated act eq =>
    obtain ⟨timeout, period, hs⟩ := station_activated p d.radio
    have hstate : (d.radio.activated p).state = LIBRADIO_STATE_ACTIVE := congrArg Station.state hs
    have hchannel : (d.radio.activated p).myChannel = dataByte p.data 0 :=
      congrArg Station.myChannel hs
    have hawake : ¬ IsAsleep LIBRADIO_STATE_ACTIVE := by decide
    rw [eq]
    refine ⟨(congrArg Station.radioActive hs).trans hup, hrefl, ?_⟩
    dsimp only
    rw [if_pos act, hstate, hchannel, if_neg hawake]
  | deactivated deact eq =>
    obtain ⟨period, hs⟩ := station_deactivated d.radio
    have hstate : d.radio.deactivated.state = LIBRADIO_STATE_WARM := congrArg Station.state hs
    have hasleep : IsAsleep LIBRADIO_STATE_WARM := by decide
    have hact : ¬ IsActivation d.radio p := fun h ↦ absurd (deact.1.symm.trans h.1) (by decide)
    rw [eq]
    refine ⟨(congrArg Station.radioActive hs).trans hup, hrefl, ?_⟩
    dsimp only
    rw [if_neg hact, if_pos deact, hstate, if_pos hasleep]
  | responded act deact active e settled fails responded =>
    cases responded with
    | listening works listening =>
      rw [settled.station] at listening
      obtain ⟨w, -, hchip⟩ := listening.chip
      have hchannel : e.radio.myChannel = d.radio.myChannel :=
        congrArg Station.myChannel settled.station
      have hstate' : d'.radio.state = d.radio.state := congrArg Station.state listening.station
      have hchannel' : d'.radio.myChannel = d.radio.myChannel :=
        congrArg Station.myChannel listening.station
      refine ⟨congrArg Station.radioActive listening.station, ?_, ?_⟩
      · rw [hchip, hchannel]
        exact .inr (tuned_startRx b _ w)
      · rw [if_neg act, if_neg deact, hstate', hchannel']
    | late fails' listening => exact absurd fails' (hlost settled.station)
    | failed fails' lost => exact absurd fails' (hlost settled.station)

/-- Whether the radio listens on the client's channel after a pass is decided by what is in
the client before it. -/
theorem tuned_libradioRxloop {b : Board σ} {app : App (Logged σ)}
    (happ : app.LeavesRadio fun w w' ↦ w'.tuned = w.tuned) (fuel ticks : Nat) {serial : Bool}
    {d : Dev (Logged σ)} (htuned : Tuned d) (hup : d.radio.radioActive = true)
    (hwakes : Wakes serial d.radio) :
    (libradioRxloop b.logged app fuel ticks serial d).radio.radioActive = true ∧
      (Tuned (libradioRxloop b.logged app fuel ticks serial d) ↔
        ¬ MovesByActivation b.logged d ∧ ¬ MovesByDeactivation b.logged d ∧
          ¬ MovesByWaking b.logged d) := by
  have hh := handled_rxloopHandle (carries_retuned b d.radio.myChannel)
    (happ.retuned d.radio.myChannel) fuel ticks d fun w ↦ .inr (tuned_startRx b _ w)
  have hstay {w : Logged σ} (h : Retuned d.radio.myChannel d.chip w) :
      w.tuned = some d.radio.myChannel := h.elim (fun h ↦ h.trans htuned) id
  have hgoon {w w' : Logged σ} (hw : w.tuned = some d.radio.myChannel)
      (h : Retuned d.radio.myChannel w w') : w'.tuned = some d.radio.myChannel :=
    h.elim (fun h ↦ h.trans hw) id
  rw [libradioRxloop_of_wakes b.logged app fuel ticks hwakes]
  generalize rxloopHandle b.logged app fuel ticks d = e at hh ⊢
  have hactive {s : Station} (hs : e.radio.station = s) (h : s.radioActive = true) :
      (rxloopSwitch e.radio).radioActive = true :=
    (myChannel_rxloopSwitch e.radio).2.trans ((congrArg Station.radioActive hs).trans h)
  cases hh with
  | quiet none station sawRx chip =>
    have hstate : e.radio.state = d.radio.state := congrArg Station.state station
    have hchannel : e.radio.myChannel = d.radio.myChannel := congrArg Station.myChannel station
    refine ⟨hactive station hup, ?_⟩
    rw [tuned_rxloopSwitch (hstay chip), hstate, hchannel]
    by_cases hasleep : IsAsleep d.radio.state <;>
      simp [MovesByActivation, MovesByDeactivation, MovesByWaking, none, hasleep, eq_comm]
  | command p some e' f handed station sawRx chip command station' sawRx' chip' =>
    have hchannel : e'.radio.myChannel = d.radio.myChannel := congrArg Station.myChannel station
    have hstate : e'.radio.state = d.radio.state := congrArg Station.state station
    have hup' : e'.radio.radioActive = true := (congrArg Station.radioActive station).trans hup
    rw [← hchannel] at command
    have hmoved := moved_commanded hup' command
    have hchip : e.chip.tuned = Option.some d.radio.myChannel :=
      hgoon (hgoon (hstay chip) (hchannel ▸ hmoved.chip)) chip'
    have hfstate : e.radio.state = f.radio.state := congrArg Station.state station'
    have hfchannel : e.radio.myChannel = f.radio.myChannel := congrArg Station.myChannel station'
    refine ⟨hactive station' hmoved.up, ?_⟩
    rw [tuned_rxloopSwitch hchip, hfstate, hfchannel, hmoved.channel, hstate, hchannel]
    have hawake (h : IsDeactivation d.radio p) : ¬ IsAsleep d.radio.state :=
      not_isAsleep_of_active h.2.2
    simp only [isActivation_station station, isDeactivation_station station, MovesByActivation,
      MovesByDeactivation, MovesByWaking, some, Option.mem_def, Option.some.injEq, exists_eq_left']
    by_cases hact : IsActivation d.radio p
    · have hdeact : ¬ IsDeactivation d.radio p := fun h ↦ absurd (hact.1.symm.trans h.1) (by decide)
      simp [hact, hdeact, eq_comm]
    · by_cases hdeact : IsDeactivation d.radio p
      · simp [hact, hdeact, hawake hdeact]
      · by_cases hasleep : IsAsleep d.radio.state <;> simp [hact, hdeact, hasleep]

/-! ### Whole runs -/

/-- Whether the radio listens on the client's channel after an event is decided by the event. -/
theorem tuned_step {b : Board σ} {app : App (Logged σ)}
    (happ : app.LeavesRadio fun w w' ↦ w'.tuned = w.tuned) (fuel : Nat) {d : Dev (Logged σ)}
    (e : Client.Event) (h : Tuned d ∧ d.radio.radioActive = true) :
    (Client.step b.logged app fuel d e).radio.radioActive = true ∧
      (Tuned (Client.step b.logged app fuel d e) ↔ KeepsChannel b.logged d e) := by
  have hsame (he : e = .tick ∨ e = .interrupt) :
      (Client.step b.logged app fuel d e).radio.radioActive = true ∧
        Tuned (Client.step b.logged app fuel d e) := by
    obtain ⟨hstation, hchip⟩ := Client.step_of_not_pass b.logged app fuel d he
    have hup := congrArg Station.radioActive hstation
    have hchannel : (Client.step b.logged app fuel d e).radio.myChannel = d.radio.myChannel :=
      congrArg Station.myChannel hstation
    refine ⟨hup.trans h.2, ?_⟩
    rw [Tuned, hchip, hchannel]
    exact h.1
  cases e with
  | tick => exact ⟨(hsame (.inl rfl)).1, iff_true_intro (hsame (.inl rfl)).2⟩
  | interrupt => exact ⟨(hsame (.inr rfl)).1, iff_true_intro (hsame (.inr rfl)).2⟩
  | pass ticks serial =>
    have hpass : Client.step b.logged app fuel d (.pass ticks serial) =
        libradioRxloop b.logged app fuel ticks serial d := rfl
    have hguard : KeepsChannel b.logged d (.pass ticks serial) = (Wakes serial d.radio →
        ¬ MovesByActivation b.logged d ∧ ¬ MovesByDeactivation b.logged d ∧
          ¬ MovesByWaking b.logged d) := rfl
    rw [hpass, hguard]
    by_cases hwakes : Wakes serial d.radio
    · obtain ⟨hup, htuned⟩ := tuned_libradioRxloop happ fuel ticks h.1 h.2 hwakes
      exact ⟨hup, htuned.trans ⟨fun hc _ ↦ hc, fun hc ↦ hc hwakes⟩⟩
    · rw [libradioRxloop_of_not_wakes b.logged app fuel ticks hwakes]
      exact ⟨h.2, iff_of_true h.1 fun hc ↦ absurd hc hwakes⟩

/-- A client that powers its radio up starts listening on its channel, one that does not
starts without having told the radio anything. -/
theorem tuned_start (b : Board σ) (id : Client.Identity) (fast slow : UInt8) (chip : σ) :
    let d := Client.start b.logged id fast slow (Client.powerOn ⟨chip, []⟩)
    let fails := PowerFails b.logged
      (Client.prepared b.logged id fast slow (Client.powerOn ⟨chip, []⟩))
    (¬ fails → Tuned d ∧ d.radio.radioActive = true) ∧ (fails → ¬ Tuned d) := by
  intro d fails
  have hprepared := Client.station_prepared b.logged id fast slow (Client.powerOn ⟨chip, []⟩)
  have hchip := Client.chip_prepared (keeps_tuned b) id fast slow (Client.powerOn ⟨chip, []⟩)
  rcases Client.start_spec (keeps_tuned b) id fast slow (Client.powerOn ⟨chip, []⟩) with
    ⟨hno, h⟩ | ⟨hfails, h⟩
  · refine ⟨fun _ ↦ ⟨?_, congrArg Station.radioActive h.station⟩, fun hc ↦ absurd hc hno⟩
    obtain ⟨w, -, hw⟩ := h.chip
    have hchannel := congrArg Station.myChannel hprepared
    have hzero : d.radio.myChannel = 0 := congrArg Station.myChannel h.station
    rw [Tuned, hzero, show d.chip = _ from hw, tuned_startRx]
    exact congrArg some hchannel
  · refine ⟨fun hc ↦ absurd hfails hc, fun _ ht ↦ ?_⟩
    have hnone : d.chip.tuned = none := h.chip.trans hchip
    rw [Tuned, hnone] at ht
    cases ht

/-- In every run of a client the radio listens on the client's channel all the time exactly
when it powers up at the start and no pass executes an activation for another channel, executes
a deactivation on another channel than 0, or goes back to LISTEN from another channel than 0. -/
theorem tuned_iff (b : Board σ) {app : App (Logged σ)}
    (happ : app.LeavesRadio fun w w' ↦ w'.tuned = w.tuned) (fuel : Nat) (id : Client.Identity)
    (fast slow : UInt8) (chip : σ) (events : List Client.Event) :
    (∀ pre, pre <+: events → Tuned (run (Client.step b.logged app fuel)
      (Client.start b.logged id fast slow (Client.powerOn ⟨chip, []⟩)) pre)) ↔
      ¬ PowerFails b.logged (Client.prepared b.logged id fast slow (Client.powerOn ⟨chip, []⟩)) ∧
        Along (Client.step b.logged app fuel) (KeepsChannel b.logged)
          (Client.start b.logged id fast slow (Client.powerOn ⟨chip, []⟩)) events := by
  obtain ⟨hup, hfails⟩ := tuned_start b id fast slow chip
  rw [forall_prefix_iff (Client.step b.logged app fuel) Tuned]
  by_cases h : PowerFails b.logged
      (Client.prepared b.logged id fast slow (Client.powerOn ⟨chip, []⟩))
  · exact iff_of_false (fun hc ↦ hfails h hc.1) fun hc ↦ hc.1 h
  · rw [and_iff_right (hup h).1, and_iff_right h]
    refine along_iff_of_inv _ (fun d e hd hg ↦ ?_)
      (fun d e hd ↦ (tuned_step happ fuel e hd).2) (hup h)
    obtain ⟨hactive, htuned⟩ := tuned_step happ fuel e hd
    exact ⟨htuned.mpr hg, hactive⟩

private def gauge : Client.Identity := ⟨127, 1, 0, 1⟩

private def deactivate : Packet := { Packet.zero with cmd := RADIO_CMD_DEACTIVATE }

/-- Activated on channel 0, the client listens on its channel. -/
theorem tuned_on_zero :
    Tuned (run (Client.step (Client.feed [Client.activation gauge 0 5] true).logged
      Client.idleApp 0) (Client.start (Client.feed [Client.activation gauge 0 5] true).logged
        gauge 1 16 (Client.powerOn ⟨0, []⟩)) Client.hear) :=
  (tuned_iff (Client.feed [Client.activation gauge 0 5] true)
    (Client.leavesRadio_idleApp fun _ ↦ rfl) 0 gauge 1 16 0 Client.hear).mpr
      (by decide +kernel) Client.hear (List.prefix_refl _)

/-- Activated on channel 2, the client goes on listening on channel 0; deactivated there, it
goes on listening on channel 2. -/
theorem tuned_elsewhere :
    ¬ Tuned (run (Client.step (Client.feed [Client.activation gauge 2 5] true).logged
      Client.idleApp 0) (Client.start (Client.feed [Client.activation gauge 2 5] true).logged
        gauge 1 16 (Client.powerOn ⟨0, []⟩)) Client.hear) ∧
    ¬ Tuned (run (Client.step (Client.feed [Client.activation gauge 2 5, deactivate] true).logged
      Client.idleApp 0)
      (Client.start (Client.feed [Client.activation gauge 2 5, deactivate] true).logged
        gauge 1 16 (Client.powerOn ⟨0, []⟩)) (Client.hear ++ Client.hear)) := by
  decide +kernel

end Libradio
