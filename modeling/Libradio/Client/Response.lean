import Libradio.Client.Reception

/-!
# What a response can do

A response powers the radio up if necessary, transmits if the radio allows it, and goes back
to RX on the client's channel. The station changes only if the radio has to be powered up.
-/

namespace Libradio

variable {σ : Type}

/-- What a station knows from the packets it received: the time of day, how many they were,
and whether there was one since it last looked. -/
structure Heard where
  tensOfMinutes : UInt8
  msTicks : UInt16
  npacketRx : UInt16
  sawRx : Bool
  deriving DecidableEq, Repr

/-- What the radio has heard. -/
def Radio.heard (r : Radio) : Heard := ⟨r.tensOfMinutes, r.msTicks, r.npacketRx, r.sawRx⟩

/-- A relation between states of the chip that holds across a transmission, too. -/
structure Board.Carries (b : Board σ) (R : σ → σ → Prop) : Prop extends b.Keeps R where
  startTx : ∀ w cmd n, cmd.head? = some SI4463_START_TX → R w (b.exchange w cmd n).1
  writeTxFifo : ∀ w bs, R w (b.writeTxFifo w bs)

/-- Nothing at all is said about the chip. -/
theorem Board.carries_true (b : Board σ) : b.Carries fun _ _ ↦ True where
  toKeeps := b.keeps_true
  startTx _ _ _ _ := trivial
  writeTxFifo _ _ := trivial

/-- The device has the station `s`, and nothing was heard. -/
structure Settled (R : σ → σ → Prop) (s : Station) (d d' : Dev σ) : Prop where
  chip : R d.chip d'.chip
  station : d'.radio.station = s
  heard : d'.radio.heard = d.radio.heard

/-- Going to ERROR forgets nothing. -/
theorem heard_libradioSetState_error (r : Radio) :
    (libradioSetState LIBRADIO_STATE_ERROR r).heard = r.heard := by
  unfold libradioSetState
  split <;> rfl

/-- The radio takes every entry of the table it is configured with. -/
def Board.takes (b : Board σ) : List (List UInt8) → σ → Bool
  | [], _ => true
  | entry :: rest, w =>
    match b.exchange w entry 0 with
    | (w, .ok _) => b.takes rest w
    | (_, .error _) => false

/-- The configuration is sent if the hardware takes all of it. -/
theorem ok_sendConfiguration (b : Board σ) (entries : List (List UInt8)) (d : Dev σ) :
    (sendConfiguration b entries d).2 = b.takes entries d.chip := by
  induction entries generalizing d with
  | nil => rfl
  | cons entry rest ih =>
    unfold sendConfiguration Board.takes
    rcases b.exchange d.chip entry 0 with ⟨w, e | v⟩
    · rfl
    · exact ih _

/-- A radio that is not powered up and does not take its configuration. -/
def PowerFails (b : Board σ) (d : Dev σ) : Prop :=
  d.radio.radioActive = false ∧ b.takes radioConfiguration d.chip = false

instance (b : Board σ) (d : Dev σ) : Decidable (PowerFails b d) :=
  inferInstanceAs (Decidable (_ ∧ _))

/-- A power-up fails exactly there. -/
theorem ok_libradioPowerUp (b : Board σ) (d : Dev σ) :
    (libradioPowerUp b d).2 = false ↔ PowerFails b d := by
  unfold libradioPowerUp PowerFails
  rw [← ok_sendConfiguration]
  split
  · next h => simp [h]
  · next h =>
    have hasleep : d.radio.radioActive = false := by simpa using h
    dsimp only
    split
    · next hok => simp [hok]
    · next hok => simp [hok, hasleep]

/-- The station after the radio was powered up, if it was not, or after that failed. -/
def powered (b : Board σ) (d : Dev σ) : Station :=
  if PowerFails b d then { d.radio.station with state := LIBRADIO_STATE_ERROR }
  else { d.radio.station with radioActive := true }

section Settled

variable {b : Board σ} {R : σ → σ → Prop}

/-- What a question does to the station. -/
theorem Asked.settled {d d' : Dev σ} (h : Asked R d d') : Settled R d.radio.station d d' := by
  have hs := congrArg Radio.station h.radio
  have ht := congrArg Radio.heard h.radio
  exact ⟨h.chip, hs, ht⟩

private theorem Settled.trans (hb : b.Keeps R) {s s' : Station} {d e f : Dev σ}
    (h₁ : Settled R s d e)
    (h₂ : Settled R s' e f) : Settled R s' d f :=
  ⟨hb.trans h₁.chip h₂.chip, h₂.station, h₂.heard.trans h₁.heard⟩

/-- A power-up that does not fail leaves the radio powered up; one that fails leaves the
station in ERROR. -/
theorem settled_libradioPowerUp (hb : b.Keeps R) (d : Dev σ) :
    Settled R (powered b d) d (libradioPowerUp b d).1 := by
  have hok := ok_libradioPowerUp b d
  unfold powered
  cases poweredUp_libradioPowerUp hb d with
  | already active eq =>
    have hno : ¬ PowerFails b d := fun h ↦ by rw [h.1] at active; cases active
    have hstation : d.radio.station = { d.radio.station with radioActive := true } := by
      rw [← active]
      rfl
    rw [if_neg hno, eq]
    exact ⟨hb.refl d.chip, hstation, rfl⟩
  | done asleep ok asked =>
    have hno : ¬ PowerFails b d := fun h ↦ by rw [hok.mpr h] at ok; cases ok
    rw [if_neg hno]
    have h := asked.settled
    exact ⟨h.chip, h.station, h.heard⟩
  | failed asleep ok asked =>
    rw [if_pos (hok.mp ok)]
    have h := asked.settled
    exact ⟨h.chip, h.station.trans (station_libradioSetState_error d.radio),
      h.heard.trans (heard_libradioSetState_error d.radio)⟩

end Settled

section Response

variable {b : Board σ} {R : σ → σ → Prop} (hb : b.Carries R)

include hb

/-- The transmission itself changes nothing but the chip and a counter. -/
theorem settled_transmitFrame (d : Dev σ) (chp : Channel) (channo : UInt8) :
    Settled R d.radio.station d (transmitFrame b 0 d chp channo).dev := by
  unfold transmitFrame libradioTxpacket
  dsimp only
  split
  · rw [if_neg (by simp)]
    exact ⟨hb.refl d.chip, rfl, rfl⟩
  · rw [if_pos rfl]
    have hfill := hb.writeTxFifo d.chip (chp.packet.stamp d.radio.msTicks).frame
    have hstart := hb.startTx (b.writeTxFifo d.chip (chp.packet.stamp d.radio.msTicks).frame)
      (startTx chp.state channo) 0 rfl
    dsimp only [clockticks]
    split
    · next w v he =>
      rw [he] at hstart
      exact ⟨hb.trans hfill hstart, rfl, rfl⟩
    · next w e he =>
      rw [he] at hstart
      exact ⟨hb.trans hfill hstart, rfl, rfl⟩

/-- A send powers the radio up first. -/
theorem settled_libradioSend (d : Dev σ) (chp : Channel) (channo : UInt8) :
    Settled R (powered b d) d (libradioSend b 0 d chp channo).dev := by
  have hup := settled_libradioPowerUp hb.toKeeps d
  unfold libradioSend
  dsimp only
  split
  · next hok =>
    have hst := hup.trans hb.toKeeps (asked_libradioRequestDeviceStatus hb.toKeeps _).settled
    rw [hup.station] at hst
    split
    · exact hst
    · have hspace := hst.trans hb.toKeeps (asked_libradioGetFifoInfo hb.toKeeps 0 _).settled
      rw [hst.station] at hspace
      unfold libradioCheckTx
      dsimp only
      split
      · have hsend := hspace.trans hb.toKeeps (settled_transmitFrame hb _ chp channo)
        rw [hspace.station] at hsend
        exact hsend
      · exact hspace
  · exact hup

end Response

/-- Waiting for the transmitter only asks the radio. -/
theorem asked_waitTransmitted {b : Board σ} {R : σ → σ → Prop} (hb : b.Keeps R) (fuel : Nat)
    (d : Dev σ) : Asked R d (waitTransmitted b fuel d) := by
  induction fuel generalizing d with
  | zero => exact .refl hb d
  | succ fuel ih =>
    have hst := asked_libradioRequestDeviceStatus hb d
    unfold waitTransmitted
    dsimp only
    split
    · exact hst.trans hb (ih _)
    · exact hst

/-- The device has the station `s`, nothing was heard, and the last thing the radio
was told is to listen on the client's channel. -/
structure Listening (b : Board σ) (R : σ → σ → Prop) (s : Station) (d d' : Dev σ) : Prop where
  chip : ∃ w, R d.chip w ∧ d'.chip = (b.exchange w (startRx d.radio.myChannel) 0).1
  station : d'.radio.station = s
  heard : d'.radio.heard = d.radio.heard

/-- What a response leaves behind: a radio that listens, or, if the radio did not power up at
first, a station in ERROR. -/
inductive Responded (b : Board σ) (R : σ → σ → Prop) (d d' : Dev σ) : Prop
  | listening (works : ¬ PowerFails b d)
      (listening : Listening b R { d.radio.station with radioActive := true } d d')
  | late (fails : PowerFails b d)
      (listening : Listening b R
        { d.radio.station with radioActive := true, state := LIBRADIO_STATE_ERROR } d d')
  | failed (fails : PowerFails b d)
      (settled : Settled R { d.radio.station with state := LIBRADIO_STATE_ERROR } d d')

section Responded

variable {b : Board σ} {R : σ → σ → Prop}

/-- Going to RX from the start either succeeds or ends in ERROR. -/
theorem recvStart_spec (hb : b.Keeps R) (d : Dev σ) :
    (¬ PowerFails b d ∧ (libradioRecvStart b d).2 = true ∧
        Listening b R { d.radio.station with radioActive := true } d (libradioRecvStart b d).1) ∨
      (PowerFails b d ∧ (libradioRecvStart b d).2 = false ∧
        Settled R { d.radio.station with state := LIBRADIO_STATE_ERROR } d
          (libradioRecvStart b d).1) := by
  have hup := settled_libradioPowerUp hb d
  have hok := ok_libradioPowerUp b d
  unfold libradioRecvStart
  unfold powered at hup
  dsimp only
  split
  · next h =>
    have hno : ¬ PowerFails b d := fun hf ↦ by rw [hok.mpr hf] at h; cases h
    rw [if_neg hno] at hup
    have hch := congrArg Station.myChannel hup.station
    refine .inl ⟨hno, rfl, ⟨_, hup.chip, ?_⟩, hup.station, hup.heard⟩
    rw [← show (libradioPowerUp b d).1.radio.myChannel = d.radio.myChannel from hch]
    rfl
  · next h =>
    have hf : PowerFails b d := hok.mp (by simpa using h)
    rw [if_pos hf] at hup
    exact .inr ⟨hf, rfl, hup⟩

/-- Every response leaves one of the two behind. -/
theorem responded_libradioSendResponse (hb : b.Carries R) (fuel : Nat)
    (cmd chan addr len : UInt8) (buffer : Nat → UInt8) (d : Dev σ) :
    Responded b R d (libradioSendResponse b fuel cmd chan addr len buffer d) := by
  unfold libradioSendResponse
  dsimp only
  generalize (⟨.transmit, 10, _⟩ : Channel) = chp
  have hsend := settled_libradioSend hb { d with txchan := chp } chp chan
  generalize libradioSend b 0 { d with txchan := chp } chp chan = r at hsend ⊢
  generalize (if r.ok = true then _ else _ : Channel) = chp'
  have hask := (asked_waitTransmitted hb.toKeeps fuel { r.dev with txchan := chp' }).settled
  generalize waitTransmitted b fuel { r.dev with txchan := chp' } = e at hask ⊢
  have hwait : Settled R (powered b d) d e :=
    ⟨hb.trans hsend.chip hask.chip, hask.station.trans hsend.station, hask.heard.trans hsend.heard⟩
  have hch : e.radio.myChannel = d.radio.myChannel := by
    refine (congrArg Station.myChannel hwait.station).trans ?_
    unfold powered
    split <;> rfl
  have hlisten {s : Station} {f : Dev σ} (h : Listening b R s e f) : Listening b R s d f := by
    obtain ⟨w, hw, hf⟩ := h.chip
    exact ⟨⟨w, hb.trans hwait.chip hw, hch ▸ hf⟩, h.station, h.heard.trans hwait.heard⟩
  have hpowered := hwait.station
  unfold powered at hpowered
  rcases recvStart_spec hb.toKeeps e with ⟨-, -, hrx⟩ | ⟨hfails, -, hrx⟩
  · by_cases hf : PowerFails b d
    · rw [if_pos hf] at hpowered
      rw [hpowered] at hrx
      exact .late hf (hlisten hrx)
    · rw [if_neg hf] at hpowered
      rw [hpowered] at hrx
      exact .listening hf (hlisten hrx)
  · have hasleep : e.radio.radioActive = false := hfails.1
    have hf : PowerFails b d := by
      refine Decidable.byContradiction fun hf ↦ ?_
      rw [if_neg hf] at hpowered
      have hup := congrArg Station.radioActive hpowered
      exact Bool.false_ne_true (hasleep.symm.trans hup)
    rw [if_pos hf] at hpowered
    rw [hpowered] at hrx
    exact .failed hf ⟨hb.trans hwait.chip hrx.chip, hrx.station, hrx.heard.trans hwait.heard⟩

end Responded

end Libradio
