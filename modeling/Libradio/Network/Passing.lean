import Libradio.Client.Answer

/-!
# What a station passes on to its radio

The library fills the transmit FIFO with the frame of one packet and starts the transmission at
once, and it takes bytes out of the receive FIFO in `libradio_rxpacket` only. A relation between
states of the chip that holds across its questions and across the frames of the packets of one
kind holds across everything else a station does.
-/

namespace Libradio

variable {σ : Type}

/-- The same board with nothing in its receive FIFO. -/
def Board.deaf (b : Board σ) : Board σ :=
  { b with readRxFifo := fun w _ ↦ (w, Vector.replicate _ 0) }

/-! ### What does not read the receive FIFO -/

section Deaf

variable (b : Board σ)

private theorem sendConfiguration_deaf (entries : List (List UInt8)) (d : Dev σ) :
    sendConfiguration b.deaf entries d = sendConfiguration b entries d := by
  induction entries generalizing d with
  | nil => rfl
  | cons entry rest ih =>
    simp only [sendConfiguration, ih]
    rfl

/-- Powering up does not need to hear. -/
theorem libradioPowerUp_deaf (d : Dev σ) : libradioPowerUp b.deaf d = libradioPowerUp b d := by
  simp only [libradioPowerUp, sendConfiguration_deaf]
  rfl

/-- Starting to receive does not need to hear. -/
theorem libradioRecvStart_deaf (d : Dev σ) :
    libradioRecvStart b.deaf d = libradioRecvStart b d := by
  simp only [libradioRecvStart, libradioPowerUp_deaf]
  rfl

/-- Sending does not need to hear. -/
theorem libradioSend_deaf (ticks : Nat) (d : Dev σ) (chp : Channel) (channo : UInt8) :
    libradioSend b.deaf ticks d chp channo = libradioSend b ticks d chp channo := by
  simp only [libradioSend, libradioPowerUp_deaf]
  rfl

private theorem waitTransmitted_deaf (fuel : Nat) (d : Dev σ) :
    waitTransmitted b.deaf fuel d = waitTransmitted b fuel d := by
  induction fuel generalizing d with
  | zero => rfl
  | succ fuel ih =>
    simp only [waitTransmitted, ih]
    rfl

private theorem libradioSendResponse_deaf (fuel : Nat) (cmd chan addr len : UInt8)
    (buffer : Nat → UInt8) (d : Dev σ) :
    libradioSendResponse b.deaf fuel cmd chan addr len buffer d =
      libradioSendResponse b fuel cmd chan addr len buffer d := by
  simp only [libradioSendResponse, libradioSend_deaf, waitTransmitted_deaf,
    libradioRecvStart_deaf]

/-- A command does not need to hear. -/
theorem libradioCommand_deaf (app : App σ) (fuel : Nat) (p : Packet) (d : Dev σ) :
    libradioCommand b.deaf app fuel p d = libradioCommand b app fuel p d := by
  simp only [libradioCommand, libradioSendResponse_deaf]

end Deaf

/-! ### Packets of one kind -/

/-- A relation between states of the chip that holds across the transmission of a packet of the
kind `P`, whatever channel it is for, and across the return to RX. -/
structure Board.Passes (b : Board σ) (R : σ → σ → Prop) (P : Packet → Prop) : Prop
    extends b.Keeps R where
  transmit : ∀ w p t state channo, P p → p.len ≤ 10 →
    R w (b.exchange (b.writeTxFifo w (p.stamp t).frame) (startTx state channo) 0).1
  startRx : ∀ w c, R w (b.exchange w (startRx c) 0).1

/-- The kind of packet that a client answers with. -/
def Packet.IsReply (p : Packet) : Prop :=
  p.cmd = RADIO_STATUS_RESPONSE ∨ p.cmd = RADIO_EEPROM_RESPONSE

instance (p : Packet) : Decidable p.IsReply := inferInstanceAs (Decidable (_ ∨ _))

section Passing

variable {b : Board σ} {R : σ → σ → Prop} {P : Packet → Prop} (hb : b.Passes R P)

include hb

private theorem passes_transmitFrame (ticks : Nat) (d : Dev σ) {chp : Channel} (channo : UInt8)
    (hP : P chp.packet) : R d.chip (transmitFrame b ticks d chp channo).dev.chip := by
  unfold transmitFrame libradioTxpacket
  by_cases hlen : chp.packet.len > 10
  · rw [if_pos hlen]
    dsimp only
    rw [if_neg Bool.false_ne_true]
    exact hb.refl d.chip
  · rw [if_neg hlen]
    dsimp only
    rw [if_pos rfl]
    have hsent := hb.transmit d.chip chp.packet (clockticks ticks d.radio).msTicks chp.state
      channo hP (UInt8.not_lt.mp hlen)
    split
    · next w v he =>
      rw [he] at hsent
      exact hsent
    · next w e he =>
      rw [he] at hsent
      exact hsent

/-- Sending a packet that may be sent is passed on to the radio. -/
theorem passes_libradioSend (ticks : Nat) (d : Dev σ) {chp : Channel} (channo : UInt8)
    (hP : P chp.packet) : R d.chip (libradioSend b ticks d chp channo).dev.chip := by
  have hup := chip_libradioPowerUp hb.toKeeps d
  unfold libradioSend
  dsimp only
  generalize libradioPowerUp b d = up at hup ⊢
  split
  · have hstatus := hb.trans hup (asked_libradioRequestDeviceStatus hb.toKeeps up.1).chip
    generalize (libradioRequestDeviceStatus b up.1).1 = e at hstatus ⊢
    split
    · exact hstatus
    · have hspace := hb.trans hstatus (asked_libradioGetFifoInfo hb.toKeeps 0 e).chip
      unfold libradioCheckTx
      dsimp only
      split
      · exact hb.trans hspace (passes_transmitFrame hb ticks _ channo hP)
      · exact hspace
  · exact hup

private theorem passes_libradioSendResponse (fuel : Nat) (cmd chan addr len : UInt8)
    (buffer : Nat → UInt8) (d : Dev σ) (hP : ∀ p : Packet, p.cmd = cmd → P p) :
    R d.chip (libradioSendResponse b fuel cmd chan addr len buffer d).chip := by
  unfold libradioSendResponse
  dsimp only
  generalize hchp : (⟨.transmit, 10, _⟩ : Channel) = chp
  have hcmd : chp.packet.cmd = cmd := by rw [← hchp]
  have hsend := passes_libradioSend hb 0 { d with txchan := chp } chan (hP chp.packet hcmd)
  generalize libradioSend b 0 { d with txchan := chp } chp chan = r at hsend ⊢
  generalize (if r.ok = true then _ else _ : Channel) = chp'
  have hwait := (asked_waitTransmitted hb.toKeeps fuel { r.dev with txchan := chp' }).chip
  exact hb.trans hsend (hb.trans hwait (chip_libradioRecvStart hb.toKeeps hb.startRx _))

/-- All that a command makes a station transmit is a reply. -/
theorem passes_libradioCommand {app : App σ} (happ : app.LeavesRadio R) (fuel : Nat) (p : Packet)
    (d : Dev σ) (hP : ∀ q : Packet, q.IsReply → P q) :
    R d.chip (libradioCommand b app fuel p d).chip := by
  have hsame {d' : Dev σ} (h : d'.chip = d.chip) : R d.chip d'.chip := by
    rw [h]
    exact hb.refl d.chip
  cases executed_libradioCommand b app fuel p d with
  | nothing act deact request eq => exact hsame (by rw [eq])
  | activated act eq => exact hsame (by rw [eq])
  | deactivated deact eq => exact hsame (by rw [eq])
  | setTime active cmd len eq => exact hsame (by rw [eq])
  | setDate active cmd len eq => exact hsame (by rw [eq])
  | silent active cmd len none eq =>
    rw [eq]
    exact (happ.fetchStatus _ d).chip
  | status active cmd len some eq =>
    rw [eq]
    apply hb.trans (happ.fetchStatus _ d).chip
    exact passes_libradioSendResponse hb fuel _ _ _ _ _ _ fun q hq ↦ hP q (.inl hq)
  | readEeprom buffer addr active cmd len eq =>
    rw [eq]
    exact passes_libradioSendResponse hb fuel _ _ _ _ _ { d with statusbuffer := buffer }
      fun q hq ↦ hP q (.inr hq)
  | writeEeprom eeprom active cmd eq => exact hsame (by rw [eq])
  | operate active cmd eq =>
    rw [eq]
    exact (happ.operate p d).chip

end Passing

end Libradio
