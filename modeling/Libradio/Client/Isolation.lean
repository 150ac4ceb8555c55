import Libradio.Client.Commands
import Libradio.Client.Traffic

/-!
# Packets that a client ignores

A packet with a bad checksum, a packet for another station, and, before the client is active,
everything but an activation with the client's own identity: `libradio_handle_packet` does
nothing with them but count them and set the clock.
-/

namespace Libradio

variable {σ : Type}

/-- The client has no use for the packet. -/
def Ignores (r : Radio) (p : Packet) : Prop :=
  p.checksum ≠ 0 ∨ ¬ IsAddressed r p ∨ (r.state < LIBRADIO_STATE_ACTIVE ∧ ¬ IsActivation r p)

instance (r : Radio) (p : Packet) : Decidable (Ignores r p) := inferInstanceAs (Decidable (_ ∨ _))

/-- A client below ACTIVE executes activations with its own identity only. -/
theorem libradioCommand_of_not_isActivation (b : Board σ) (app : App σ) (fuel : Nat) {p : Packet}
    {d : Dev σ} (hstate : d.radio.state < LIBRADIO_STATE_ACTIVE)
    (h : ¬ IsActivation d.radio p) : libradioCommand b app fuel p d = d := by
  have hlow : ¬ LIBRADIO_STATE_ACTIVE ≤ d.radio.state := UInt8.not_le.mpr hstate
  cases executed_libradioCommand b app fuel p d with
  | nothing act deact request eq => exact eq
  | activated act eq => exact absurd act h
  | deactivated deact eq => exact absurd deact.2.2 hlow
  | setTime active | setDate active | silent active | status active | readEeprom _ _ active
  | writeEeprom _ active | operate active => exact absurd active hlow

/-- What a packet must not touch, apart from the chip. -/
structure Untouched (d d' : Dev σ) : Prop where
  state : d'.radio.state = d.radio.state
  myChannel : d'.radio.myChannel = d.radio.myChannel
  myNodeId : d'.radio.myNodeId = d.radio.myNodeId
  tensOfMinutes : d'.radio.tensOfMinutes = d.radio.tensOfMinutes
  date : d'.radio.date = d.radio.date
  eeprom : d'.eeprom = d.eeprom

/-- The clock and the counters of received packets are as before. -/
structure Uncounted (r r' : Radio) : Prop where
  msTicks : r'.msTicks = r.msTicks
  npacketRx : r'.npacketRx = r.npacketRx
  sawRx : r'.sawRx = r.sawRx

private theorem tensOfMinutes_accept_rearm (p : Packet) (r : Radio) :
    (r.accept p).rearm.tensOfMinutes = r.tensOfMinutes := by
  unfold Radio.rearm Radio.accept Radio.hear
  split <;> split <;> rfl

private theorem uncounted_rearm (r : Radio) : Uncounted r r.rearm := by
  unfold Radio.rearm
  split <;> exact ⟨rfl, rfl, rfl⟩

private theorem Uncounted.of_own {r e r' : Radio} (he : Uncounted r e) (h : r'.own = e.own) :
    Uncounted r r' := by
  have hms := congrArg Radio.msTicks h
  have hcount := congrArg Radio.npacketRx h
  have hsaw := congrArg Radio.sawRx h
  exact ⟨hms.trans he.msTicks, hcount.trans he.npacketRx, hsaw.trans he.sawRx⟩

-- A receive buffer is not among what a packet must not touch.
private theorem Untouched.of_asked {R : σ → σ → Prop} {d d' : Dev σ} {r : Radio} (chan : Channel)
    (h : Asked R { d with radio := r } d') (hstation : r.station = d.radio.station)
    (htens : r.tensOfMinutes = d.radio.tensOfMinutes) :
    Untouched d { d' with rxchan := chan } := by
  have hst : d'.radio.station = d.radio.station :=
    (congrArg Radio.station h.radio).trans hstation
  exact ⟨congrArg Station.state hst, congrArg Station.myChannel hst,
    congrArg Station.myNodeId hst, (congrArg Radio.tensOfMinutes h.radio).trans htens,
    congrArg Station.date hst, h.eeprom⟩

/-- A packet the client has no use for leaves its state, its assignment, its time of day, its
date and its EEPROM alone, nothing is transmitted and `operate` is not called; with a bad
checksum the clock and the counters stay, too. The packet is any that sixteen bytes make. -/
theorem handlePacket_ignored (b : Board σ) (app : App (Logged σ)) (fuel : Nat)
    (d : Dev (Logged σ)) (h : Ignores d.radio (received b.logged d)) :
    let d' := libradioHandlePacket b.logged app.logged fuel 0 d
    Untouched d d' ∧ Silent d.chip d'.chip ∧
      ((received b.logged d).checksum ≠ 0 → Uncounted d.radio d'.radio) := by
  have hrecv := reception_libradioRecv (keeps_silent b) (silent_startRx b d.radio.myChannel) d
    d.rxchan.packet
  unfold libradioHandlePacket
  dsimp only [clockticks]
  generalize libradioRecv b.logged d d.rxchan.packet d.radio.myChannel = r at hrecv ⊢
  cases hrecv with
  | nothing ok packet few asked =>
    rw [ok, if_neg Bool.false_ne_true]
    refine ⟨.of_asked (r := d.radio) _ asked rfl rfl, asked.chip, fun _ ↦ ?_⟩
    exact .of_own ⟨rfl, rfl, rfl⟩ asked.radio
  | damaged ok many packet sum asked =>
    rw [ok, if_neg Bool.false_ne_true]
    refine ⟨.of_asked _ asked (station_rearm d.radio) ?_, asked.chip, fun _ ↦ ?_⟩
    · unfold Radio.rearm
      split <;> rfl
    · exact .of_own (uncounted_rearm d.radio) asked.radio
  | good ok many packet sum asked =>
    rw [ok, if_pos rfl]
    have hstation : r.dev.radio.station = d.radio.station :=
      (congrArg Radio.station asked.radio).trans (by simp)
    have hun : Untouched d { r.dev with rxchan := { r.dev.rxchan with packet := r.packet } } :=
      .of_asked _ asked (by simp) (tensOfMinutes_accept_rearm r.packet d.radio)
    have hkeep : libradioCommand b.logged app.logged fuel r.packet
        { r.dev with rxchan := { r.dev.rxchan with packet := r.packet } } =
          { r.dev with rxchan := { r.dev.rxchan with packet := r.packet } } ∨
        ¬ (r.packet.node = 0 ∨ r.packet.node = r.dev.radio.myNodeId) := by
      rw [← packet] at h
      rcases h with hbad | hnode | ⟨hstate, hact⟩
      · exact absurd sum hbad
      · refine .inr fun hc ↦ hnode ?_
        rwa [show r.dev.radio.myNodeId = d.radio.myNodeId from hun.myNodeId] at hc
      · refine .inl (libradioCommand_of_not_isActivation _ _ _ ?_ ?_)
        · exact hun.state ▸ hstate
        intro hc
        have hid := congrArg (fun s : Station ↦ (s.cat1, s.cat2, s.num1, s.num2)) hstation
        simp only [Radio.station, Prod.mk.injEq] at hid
        refine hact ⟨hc.1, hc.2.1, ?_⟩
        have hcarry := hc.2.2
        unfold CarriesIdentity at hcarry ⊢
        rw [← hid.1, ← hid.2.1, ← hid.2.2.1, ← hid.2.2.2]
        exact hcarry
    refine ⟨?_, ?_, fun hbad ↦ absurd sum (packet ▸ hbad)⟩
    · split
      · next hnode =>
        rw [hkeep.resolve_right (not_not_intro hnode)]
        exact hun
      · exact hun
    · split
      · next hnode =>
        rw [hkeep.resolve_right (not_not_intro hnode)]
        exact asked.chip
      · exact asked.chip

-- A radio that answers every question with sixteen and receives zeros.
private def zerosRadio : Board (Logged Nat) := (Board.scripted fun _ _ ↦ 16).logged

private def startedClient : Dev (Logged Nat) :=
  Client.start zerosRadio ⟨127, 1, 0, 1⟩ 1 16 (Client.powerOn ⟨0, []⟩)

/-- A broadcast that does nothing is received and ignored. -/
theorem handlePacket_ignored_noop :
    Untouched startedClient
      (libradioHandlePacket zerosRadio Client.idleApp.logged 0 0 startedClient) :=
  (handlePacket_ignored (.scripted fun _ _ ↦ 16) Client.idleApp 0 startedClient
    (by decide +kernel)).1

end Libradio
