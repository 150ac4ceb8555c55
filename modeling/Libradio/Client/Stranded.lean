import Libradio.Client.Commands
import Libradio.Client.Interrupts

/-!
# Packets left in the FIFO

A frame that arrives while the interrupt is pending drives no edge. If the pass that is
running has made its one reading already, or the reading leaves the frame behind, the client
goes back to waiting with a packet in the FIFO and nothing to wake it up.
-/

namespace Libradio
open Libradio.Base

/-- What the radio's interrupt depends on: the bytes in the receive FIFO, whether the radio's
interrupt is pending, the software flag, and whether the interrupt is enabled, is to be
enabled, and the radio is powered up. -/
structure IrqLine where
  unread : Nat
  pending : Bool
  irqFired : UInt8
  int0Enabled : Bool
  catchIrq : UInt8
  radioActive : Bool
  deriving DecidableEq, Repr

/-- The line of a radio. -/
def Radio.line (w : IrqChip) (r : Radio) : IrqLine :=
  ⟨w.chip.rxFifo.length, w.pending, r.irqFired, r.int0Enabled, r.catchIrq, r.radioActive⟩

/-- The line of a device. -/
def Dev.line (d : Dev IrqChip) : IrqLine := d.radio.line d.chip

/-- The application does not touch the line. -/
structure App.LeavesLine (app : App IrqChip) : Prop where
  operate : ∀ p d, (app.operate p d).line = d.line
  fetchStatus : ∀ i d, (app.fetchStatus i d).1.line = d.line

/-- The application that does nothing. -/
theorem Client.leavesLine_idleApp : (Client.idleApp : App IrqChip).LeavesLine :=
  ⟨fun _ _ ↦ rfl, fun _ _ ↦ rfl⟩

/-! ### What leaves the line alone -/

/-- A clock interrupt. -/
theorem line_clocktick (w : IrqChip) (r : Radio) : (clocktick r).line w = r.line w := by
  have huntimed (r : Radio) : r.untimed.line w = r.line w := rfl
  rw [← huntimed, untimed_clocktick, huntimed]

/-- A change of state. -/
theorem line_libradioSetState (w : IrqChip) (newState : UInt8) (r : Radio) :
    (libradioSetState newState r).line w = r.line w := by
  have hlisten (r : Radio) : (enterListen r).line w = r.line w := by
    unfold enterListen
    dsimp only
    split <;> split <;> rfl
  unfold libradioSetState
  split
  · rfl
  · dsimp only
    split
    · rfl
    · split
      · exact hlisten (libradioSetSong newState r)
      · split <;> rfl

/-- The `switch` of the loop. -/
theorem line_rxloopSwitch (w : IrqChip) (r : Radio) : (rxloopSwitch r).line w = r.line w := by
  have hactive (r : Radio) : (rxloopActive r).line w = r.line w := by
    have hseen : (if r.sawRx then { r with timeout := 60000, sawRx := false } else r).line w =
        r.line w := by
      split <;> rfl
    unfold rxloopActive
    generalize (if r.sawRx then { r with timeout := 60000, sawRx := false } else r) = r' at hseen
    dsimp only
    split
    · exact (line_libradioSetState w _ _).trans hseen
    · exact hseen
  unfold rxloopSwitch
  split
  · exact line_libradioSetState w _ r
  · split
    · exact line_libradioSetState w _ r
    · split
      · rfl
      · exact hactive r

section Line

variable (reply : Nat → Nat → UInt8)

/-- A command other than GET_INT_STATUS, and FIFO_INFO if it clears nothing. -/
theorem line_exchange (r : Radio) (w : IrqChip) (cmd : List UInt8) {c : UInt8} (n : Nat)
    (hhead : cmd.head? = some c) (hstatus : c ≠ SI4463_GET_INT_STATUS)
    (hinfo : c = SI4463_FIFO_INFO → cmd = [SI4463_FIFO_INFO, 0]) :
    r.line ((IrqChip.board reply).exchange w cmd n).1 = r.line w := by
  have hfifo (c : Si4463) : (c.execute cmd).rxFifo = c.rxFifo := by
    unfold Si4463.execute
    split
    · rfl
    · next clrf =>
      have hclear := hinfo (Option.some.inj hhead).symm
      simp only [List.cons.injEq, and_true, true_and] at hclear
      rw [hclear]
      rfl
    · rfl
  have hkeep : cmd.head? ≠ some SI4463_GET_INT_STATUS := by
    rw [hhead]
    exact fun h ↦ hstatus (Option.some.inj h)
  have hchip : ((IrqChip.board reply).exchange w cmd n).1 =
      ⟨({ w.chip with index := w.chip.index + 1 } : Si4463).execute cmd,
        w.pending && cmd.head? ≠ some SI4463_GET_INT_STATUS⟩ := rfl
  rw [hchip]
  unfold Radio.line
  dsimp only
  rw [hfifo, decide_eq_true hkeep, Bool.and_true]

private theorem line_libradioRequestDeviceStatus (d : Dev IrqChip) :
    (libradioRequestDeviceStatus (IrqChip.board reply) d).1.line = d.line := by
  have h := line_exchange reply d.radio d.chip [SI4463_REQUEST_DEVICE_STATE] 2 rfl
    (by decide) fun h ↦ absurd h (by decide)
  unfold libradioRequestDeviceStatus
  split
  · next w v he =>
    rw [he] at h
    exact h
  · next w e he =>
    rw [he] at h
    exact h

private theorem line_libradioGetFifoInfo (d : Dev IrqChip) :
    (libradioGetFifoInfo (IrqChip.board reply) 0 d).1.line = d.line := by
  have h := line_exchange reply d.radio d.chip [SI4463_FIFO_INFO, 0] 2 rfl
    (by decide) fun _ ↦ rfl
  unfold libradioGetFifoInfo
  split
  · next w v he =>
    rw [he] at h
    exact h
  · next w e he =>
    rw [he] at h
    exact h

private theorem line_libradioSetRx (channo : UInt8) (d : Dev IrqChip) :
    (libradioSetRx (IrqChip.board reply) channo d).line = d.line :=
  line_exchange reply d.radio d.chip (startRx channo) 0 rfl (by decide)
    fun h ↦ absurd h (by decide)

/-- The end of a reception. -/
theorem line_listenAgain (channo : UInt8) (d : Dev IrqChip) :
    (listenAgain (IrqChip.board reply) channo d).line = d.line := by
  have h := line_libradioRequestDeviceStatus reply d
  unfold listenAgain
  dsimp only
  split
  · exact (line_libradioSetRx reply channo _).trans h
  · exact h

private theorem line_transmitFrame (d : Dev IrqChip) (chp : Channel) (channo : UInt8) :
    (transmitFrame (IrqChip.board reply) 0 d chp channo).dev.line = d.line := by
  unfold transmitFrame libradioTxpacket
  dsimp only
  split
  · rw [if_neg (by simp)]
  · rw [if_pos rfl]
    have h := line_exchange reply d.radio ((IrqChip.board reply).writeTxFifo d.chip
      (chp.packet.stamp d.radio.msTicks).frame) (startTx chp.state channo) 0 rfl
      (by decide) fun h ↦ absurd h (by decide)
    dsimp only [clockticks]
    split
    · next w v he =>
      rw [he] at h
      exact h
    · next w e he =>
      rw [he] at h
      exact h

/-- A powered up radio is not powered up again. -/
theorem powerUp_of_active {d : Dev IrqChip} (h : d.line.radioActive = true) :
    libradioPowerUp (IrqChip.board reply) d = (d, true) := if_pos h

private theorem line_libradioSend {d : Dev IrqChip} (h : d.line.radioActive = true) (chp : Channel)
    (channo : UInt8) : (libradioSend (IrqChip.board reply) 0 d chp channo).dev.line = d.line := by
  have hst := line_libradioRequestDeviceStatus reply d
  unfold libradioSend
  rw [powerUp_of_active reply h]
  dsimp only
  rw [if_pos rfl]
  split
  · exact hst
  · have hspace := (line_libradioGetFifoInfo reply _).trans hst
    unfold libradioCheckTx
    dsimp only
    split
    · exact (line_transmitFrame reply _ chp channo).trans hspace
    · exact hspace

private theorem line_waitTransmitted (fuel : Nat) (d : Dev IrqChip) :
    (waitTransmitted (IrqChip.board reply) fuel d).line = d.line := by
  induction fuel generalizing d with
  | zero => rfl
  | succ fuel ih =>
    have hst := line_libradioRequestDeviceStatus reply d
    unfold waitTransmitted
    dsimp only
    split
    · exact (ih _).trans hst
    · exact hst

/-- A client is ready for interrupts if its radio is powered up and the interrupt is to be
enabled again after a reception. -/
def IrqLine.Ready (l : IrqLine) : Prop := l.radioActive = true ∧ l.catchIrq = 1

private theorem line_libradioRecvStart {d : Dev IrqChip} (h : d.line.Ready) :
    (libradioRecvStart (IrqChip.board reply) d).1.line = d.line := by
  have hcatch : d.line = ({ d.radio with catchIrq := 1 } : Radio).line d.chip := by
    have hone : d.radio.catchIrq = 1 := h.2
    unfold Dev.line Radio.line
    rw [hone]
  unfold libradioRecvStart
  rw [powerUp_of_active reply h.1]
  dsimp only
  rw [if_pos rfl, hcatch]
  exact line_libradioSetRx reply _ _

/-- A response. -/
theorem line_libradioSendResponse (fuel : Nat) (cmd chan addr len : UInt8)
    (buffer : Nat → UInt8) {d : Dev IrqChip} (h : d.line.Ready) :
    (libradioSendResponse (IrqChip.board reply) fuel cmd chan addr len buffer d).line =
      d.line := by
  unfold libradioSendResponse
  dsimp only
  generalize (⟨.transmit, 10, _⟩ : Channel) = chp
  have hsend := line_libradioSend reply (d := { d with txchan := chp }) h.1 chp chan
  generalize libradioSend (IrqChip.board reply) 0 { d with txchan := chp } chp chan = r at hsend ⊢
  generalize (if r.ok = true then _ else _ : Channel) = chp'
  have hwait := (line_waitTransmitted reply fuel { r.dev with txchan := chp' }).trans hsend
  generalize waitTransmitted (IrqChip.board reply) fuel { r.dev with txchan := chp' } = e
    at hwait ⊢
  have hline : e.line = d.line := hwait
  rw [line_libradioRecvStart reply (hline ▸ h), hline]

/-- Every command. -/
theorem line_libradioCommand {app : App IrqChip} (happ : app.LeavesLine) (fuel : Nat)
    (p : Packet) {d : Dev IrqChip} (h : d.line.Ready) :
    (libradioCommand (IrqChip.board reply) app fuel p d).line = d.line := by
  cases executed_libradioCommand (IrqChip.board reply) app fuel p d with
  | nothing act deact request eq => rw [eq]
  | activated act eq =>
    rw [eq]
    exact line_libradioSetState d.chip _ _
  | deactivated deact eq =>
    rw [eq]
    exact line_libradioSetState d.chip _ _
  | setTime active cmd len eq =>
    rw [eq]
    rfl
  | setDate active cmd len eq =>
    rw [eq]
    rfl
  | silent active cmd len none eq =>
    rw [eq]
    exact happ.fetchStatus _ d
  | status active cmd len some eq =>
    have hfetch := happ.fetchStatus (dataByte p.data 2) d
    rw [eq, line_libradioSendResponse reply fuel _ _ _ _ _ (hfetch ▸ h)]
    exact hfetch
  | readEeprom buffer addr active cmd len eq =>
    rw [eq]
    exact line_libradioSendResponse reply fuel _ _ _ _ _ (d := { d with statusbuffer := buffer }) h
  | writeEeprom eeprom active cmd eq =>
    rw [eq]
    rfl
  | operate active cmd eq =>
    rw [eq]
    exact happ.operate p d

/-- FIFO_INFO with a flag that clears the receive FIFO. -/
theorem line_clear (clrf : UInt8) (hclear : clrf &&& 2 ≠ 0) (d : Dev IrqChip) :
    (libradioGetFifoInfo (IrqChip.board reply) clrf d).1.line = { d.line with unread := 0 } := by
  have hchip : ((IrqChip.board reply).exchange d.chip [SI4463_FIFO_INFO, clrf] 2).1.chip.rxFifo =
      [] := if_neg hclear
  have hpending : ((IrqChip.board reply).exchange d.chip [SI4463_FIFO_INFO, clrf] 2).1.pending =
      d.chip.pending := Bool.and_true _
  unfold libradioGetFifoInfo
  split
  · next w v he =>
    rw [he] at hchip hpending
    unfold Dev.line Radio.line
    dsimp only at hchip hpending ⊢
    rw [hchip, hpending]
    rfl
  · next w e he =>
    rw [he] at hchip hpending
    unfold Dev.line Radio.line
    dsimp only at hchip hpending ⊢
    rw [hchip, hpending]
    rfl

/-- GET_INT_STATUS. -/
theorem line_libradioGetIntStatus (d : Dev IrqChip) :
    (libradioGetIntStatus (IrqChip.board reply) d).line = { d.line with pending := false } := by
  have hpending : ((IrqChip.board reply).exchange d.chip [SI4463_GET_INT_STATUS, 0, 0, 0] 8).1 =
      ⟨{ d.chip.chip with index := d.chip.chip.index + 1 }, false⟩ :=
    congrArg (IrqChip.mk _) (Bool.and_false _)
  unfold libradioGetIntStatus storeOnly Dev.line Radio.line
  rw [hpending]

/-! ### The start -/

/-- The radio takes every entry of the table. -/
theorem ok_sendConfiguration_irq (entries : List (List UInt8)) (d : Dev IrqChip) :
    (sendConfiguration (IrqChip.board reply) entries d).2 = true := by
  induction entries generalizing d with
  | nil => rfl
  | cons entry rest ih => exact ih _

/-- Powering up clears both FIFOs and the interrupt. -/
theorem line_libradioPowerUp {d : Dev IrqChip} (h : d.radio.radioActive = false) :
    (libradioPowerUp (IrqChip.board reply) d).2 = true ∧
      (libradioPowerUp (IrqChip.board reply) d).1.line =
        { d.line with unread := 0, pending := false, radioActive := true } := by
  have hok := ok_sendConfiguration_irq reply radioConfiguration d
  have hplain : ∀ e ∈ radioConfiguration, e.head? ≠ some SI4463_START_TX ∧
      e.head? ≠ some SI4463_START_RX := by decide
  have hasked := (asked_sendConfiguration (IrqChip.board reply).keeps_true radioConfiguration d
    (fun e he ↦ (hplain e he).1) fun e he ↦ (hplain e he).2).radio
  unfold libradioPowerUp
  rw [if_neg (by rw [h]; exact Bool.false_ne_true)]
  dsimp only
  generalize sendConfiguration (IrqChip.board reply) radioConfiguration d = c at hok hasked ⊢
  rw [if_pos hok]
  refine ⟨rfl, ?_⟩
  have hc : ({ c.1.line with unread := 0, pending := false, radioActive := true } : IrqLine) =
      { d.line with unread := 0, pending := false, radioActive := true } := by
    have hirq := congrArg Radio.irqFired hasked
    have hint := congrArg Radio.int0Enabled hasked
    have hcatch := congrArg Radio.catchIrq hasked
    unfold Dev.line Radio.line
    rw [show c.1.radio.irqFired = d.radio.irqFired from hirq,
      show c.1.radio.int0Enabled = d.radio.int0Enabled from hint,
      show c.1.radio.catchIrq = d.radio.catchIrq from hcatch]
  have hactive (e : Dev IrqChip) :
      ({ e with radio := { e.radio with radioActive := true } } : Dev IrqChip).line =
        { e.line with radioActive := true } := rfl
  have hinfo (e : Dev IrqChip) : (libradioGetFuncInfo (IrqChip.board reply)
      (libradioGetPartInfo (IrqChip.board reply)
        (libradioGetChipStatus (IrqChip.board reply) e))).radio = e.radio := rfl
  rw [hactive, line_clear reply 3 (by decide), line_libradioRequestDeviceStatus,
    line_libradioGetIntStatus, ← hc]
  unfold Dev.line
  rw [hinfo]
  rfl

/-- A client starts with an empty FIFO and no interrupt. -/
theorem line_start (id : Client.Identity) (fast slow : UInt8) (d : Dev IrqChip) :
    (Client.start (IrqChip.board reply) id fast slow d).line = ⟨0, false, 0, true, 1, true⟩ := by
  have hstation := Client.station_prepared (IrqChip.board reply) id fast slow d
  have henable (e : Dev IrqChip) :
      ({ e with radio := libradioIrqEnable 1 e.radio } : Dev IrqChip).line =
        { e.line with irqFired := 0, int0Enabled := true, catchIrq := 1 } := rfl
  have hcatch (e : Dev IrqChip) :
      ({ e with radio := { e.radio with catchIrq := 1 } } : Dev IrqChip).line =
        { e.line with catchIrq := 1 } := rfl
  rw [Client.start_eq]
  dsimp only
  rw [henable]
  generalize Client.prepared (IrqChip.board reply) id fast slow d = e at hstation ⊢
  have hasleep : e.radio.radioActive = false := congrArg Station.radioActive hstation
  obtain ⟨hok, hline⟩ := line_libradioPowerUp reply hasleep
  unfold libradioRecvStart
  dsimp only
  rw [if_pos hok]
  dsimp only
  rw [line_libradioSetRx, hcatch, hline]

end Line

/-! ### Step by step -/

/-- What is known of the line and of an edge, by where the client is. -/
def IrqLine.Sound (l : IrqLine) (latched : Bool) : Point → Prop
  | .waiting => (l.int0Enabled = true ↔ l.irqFired = 0) ∧ (latched = true → l.irqFired = 0) ∧
      (l.pending = true ↔ latched = true ∨ l.irqFired ≠ 0) ∧ (16 ≤ l.unread → l.pending = true)
  | .check => l.pending = true ∧ latched = false
  | .read _ => l.pending = true ∧ latched = false
  | .rearm _ _ _ => l.pending = true ∧ latched = false ∧ l.unread < 16
  | .command _ _ _ => l.pending = true ∧ latched = false ∧ l.unread < 16
  | .status => l.pending = true ∧ latched = false ∧ l.unread < 16
  | .enable => (l.pending = true ↔ latched = true) ∧ (latched = true ↔ 16 ≤ l.unread)

namespace Micro

/-- The packet that the first sixteen bytes of the FIFO make. -/
def front (s : Micro) : Packet :=
  (Packet.ofBytes (Vector.ofFn fun i ↦ s.dev.chip.chip.rxFifo.getD i.val 0)).clampLen

/-- The three steps of a pass between its reading and GET_INT_STATUS. -/
def IsPastReading : Point → Bool
  | .rearm _ _ _ => true
  | .command _ _ _ => true
  | .status => true
  | _ => false

/-- The reading itself. -/
def IsReading : Point → Bool
  | .read _ => true
  | _ => false

/-- The step comes in time: no frame arrives between the reading and GET_INT_STATUS, a good
packet is read before a second one is in the FIFO, and the interrupt routine does not run
between GET_INT_STATUS and the second enabling. -/
def Timely (s : Micro) : Happening → Prop
  | .arrive _ => IsPastReading s.point = false
  | .isr => ¬ (s.point = .enable ∧ s.latched = true ∧ s.dev.radio.int0Enabled = true)
  | .tick => True
  | .proceed _ => ¬ (IsReading s.point = true ∧ s.front.checksum = 0 ∧
      32 ≤ s.dev.chip.chip.rxFifo.length)

instance (s : Micro) : (e : Happening) → Decidable (s.Timely e)
  | .arrive _ => inferInstanceAs (Decidable (_ = _))
  | .isr => inferInstanceAs (Decidable (¬ _))
  | .tick => .isTrue trivial
  | .proceed _ => inferInstanceAs (Decidable (¬ _))

/-- A client that is waiting with a whole packet in the FIFO comes to read it, even if nothing
more arrives. -/
def Attends (reply : Nat → Nat → UInt8) (app : App IrqChip) (fuel : Nat) (s : Micro) : Prop :=
  s.point = .waiting → 16 ≤ s.dev.chip.chip.rxFifo.length → ∀ serial,
    (run (step reply app fuel) s [.isr, .proceed serial, .proceed serial]).point =
      .read s.dev.radio.myChannel

/-- What is known of the client all the time. -/
structure Sound (s : Micro) : Prop where
  ready : s.dev.line.Ready
  line : s.dev.line.Sound s.latched s.point
  counted : ∀ channo, s.point = .read channo → 16 ≤ s.dev.radio.rxFifo

/-- A packet is in the FIFO and its edge is gone. -/
structure Missed (s : Micro) : Prop where
  ready : s.dev.line.Ready
  latched : s.latched = false
  unread : 16 ≤ s.dev.line.unread

section Steps

variable (reply : Nat → Nat → UInt8)

/-- A frame adds its bytes. -/
theorem line_arrive (frame : Vector UInt8 16) (s : Micro) : (s.arrive frame).dev.line =
    { s.dev.line with unread := s.dev.line.unread + 16, pending := true } := by
  have hlen : (s.dev.chip.chip.rxFifo ++ frame.toList).length =
      s.dev.chip.chip.rxFifo.length + 16 := by simp
  unfold arrive Dev.line Radio.line
  dsimp only
  rw [hlen]

/-- What FIFO_INFO says about the FIFO. -/
theorem libradioCheckRx_irq (d : Dev IrqChip) :
    (libradioCheckRx (IrqChip.board reply) d).2 = decide (16 ≤ d.line.unread) ∧
      (16 ≤ d.line.unread → 16 ≤ (libradioCheckRx (IrqChip.board reply) d).1.radio.rxFifo) := by
  have hinfo : (libradioGetFifoInfo (IrqChip.board reply) 0 d).2 =
        UInt8.ofNat (min d.line.unread 255) ∧
      (libradioGetFifoInfo (IrqChip.board reply) 0 d).1.radio.rxFifo =
        (libradioGetFifoInfo (IrqChip.board reply) 0 d).2 := by
    refine ⟨?_, rfl⟩
    simp [libradioGetFifoInfo, IrqChip.board, Si4463.board, Si4463.exchange, Si4463.replyByte,
      Si4463.execute, Dev.line, Radio.line]
  have hcount : (16 : UInt8) ≤ UInt8.ofNat (min d.line.unread 255) ↔ 16 ≤ d.line.unread := by
    have hsmall : min d.line.unread 255 < 256 := by omega
    rw [UInt8.le_iff_toNat_le, UInt8.toNat_ofNat', Nat.mod_eq_of_lt hsmall]
    show 16 ≤ _ ↔ _
    omega
  unfold libradioCheckRx
  dsimp only
  rw [hinfo.2, hinfo.1]
  exact ⟨decide_eq_decide.mpr hcount, hcount.mpr⟩

/-- The checks of a packet that was read. -/
theorem line_checkReceived (d : Dev IrqChip) (p : Packet) :
    (checkReceived d p).dev.line = d.line ∧
      ((checkReceived d p).ok = true ↔ p.clampLen.checksum = 0) := by
  unfold checkReceived
  dsimp only
  split
  · next h => exact ⟨rfl, fun hc ↦ Bool.noConfusion hc, fun hc ↦ absurd hc h⟩
  · next h =>
    have hgood : p.clampLen.checksum = 0 := Decidable.not_not.mp h
    split <;> exact ⟨rfl, fun _ ↦ hgood, fun _ ↦ rfl⟩

/-- A good packet is taken out of the FIFO; a bad one clears it. -/
theorem line_read (channo : UInt8) {s : Micro} (h : 16 ≤ s.dev.radio.rxFifo) :
    (s.read reply channo).dev.line = { s.dev.line with
      unread := if s.front.checksum = 0 then s.dev.line.unread - 16 else 0 } := by
  have hn : min s.dev.radio.rxFifo.toNat SI4463_PACKET_LEN = 16 := by
    have h16 : 16 ≤ s.dev.radio.rxFifo.toNat := UInt8.le_iff_toNat_le.mp h
    exact Nat.min_eq_right h16
  have hblock : libradioRxpacket (IrqChip.board reply) s.dev s.dev.rxchan.packet =
      checkReceived
        { s.dev with chip :=
          ⟨{ s.dev.chip.chip with rxFifo := s.dev.chip.chip.rxFifo.drop 16 }, s.dev.chip.pending⟩ }
        (Packet.ofBytes (Vector.ofFn fun i ↦ s.dev.chip.chip.rxFifo.getD i.val 0)) := by
    unfold libradioRxpacket
    rw [hn]
    dsimp only
    rw [Packet.overwrite_full]
    rfl
  obtain ⟨hline, hok⟩ := line_checkReceived
    { s.dev with chip :=
      ⟨{ s.dev.chip.chip with rxFifo := s.dev.chip.chip.rxFifo.drop 16 }, s.dev.chip.pending⟩ }
    (Packet.ofBytes (Vector.ofFn fun i ↦ s.dev.chip.chip.rxFifo.getD i.val 0))
  unfold read
  dsimp only
  rw [hblock]
  generalize checkReceived _ _ = r at hline hok ⊢
  have hdrop : r.dev.line = { s.dev.line with unread := s.dev.line.unread - 16 } := by
    rw [hline]
    unfold Dev.line Radio.line
    dsimp only
    rw [List.length_drop]
  by_cases hgood : s.front.checksum = 0
  · rw [if_pos (hok.mpr hgood), if_pos hgood]
    exact hdrop
  · rw [if_neg fun hc ↦ hgood (hok.mp hc), if_neg hgood, line_clear reply 2 (by decide), hdrop]

/-- Whatever was read, the client goes on to the first enabling. -/
theorem read_spec (channo : UInt8) (s : Micro) : (s.read reply channo).latched = s.latched ∧
    ∃ p ok, (s.read reply channo).point = .rearm channo p ok := by
  unfold read
  dsimp only
  exact ⟨rfl, _, _, rfl⟩

/-- The first enabling. -/
theorem line_rearm (channo : UInt8) (p : Packet) (ok : Bool) {s : Micro}
    (h : s.dev.line.Ready) : (s.rearm channo p ok).dev.line =
      { s.dev.line with irqFired := 0, int0Enabled := true } := by
  have hcatch : s.dev.radio.catchIrq = 1 := h.2
  have hne : s.dev.radio.catchIrq ≠ 0 := by
    rw [hcatch]
    decide
  unfold rearm Dev.line Radio.line
  dsimp only
  rw [if_pos hne, hcatch]
  rfl

/-- The rest of the reception and the command. -/
theorem line_command {app : App IrqChip} (happ : app.LeavesLine) (fuel : Nat) (channo : UInt8)
    (p : Packet) (ok : Bool) {s : Micro} (h : s.dev.line.Ready) :
    (s.command reply app fuel channo p ok).dev.line = s.dev.line := by
  have hheard := line_listenAgain reply channo s.dev
  unfold command
  dsimp only
  generalize listenAgain (IrqChip.board reply) channo s.dev = e at hheard ⊢
  have hf : ({ e with rxchan := { e.rxchan with packet := p } } : Dev IrqChip).line =
      s.dev.line := hheard
  split
  · split
    · rw [line_libradioCommand reply happ fuel p (hf ▸ h), hf]
    · exact hf
  · exact hf

/-- The second enabling. -/
theorem line_enable (s : Micro) : s.enable.dev.line =
    { s.dev.line with irqFired := 0, int0Enabled := true, catchIrq := 1 } :=
  line_rxloopSwitch s.dev.chip (libradioIrqEnable 1 s.dev.radio)

/-! ### Every timely step keeps what is known -/

private theorem sound_start (id : Client.Identity) (fast slow : UInt8) (d : Dev IrqChip) :
    (start reply id fast slow d).Sound := by
  have hline : (start reply id fast slow d).dev.line = ⟨0, false, 0, true, 1, true⟩ :=
    line_start reply id fast slow d
  refine ⟨?_, ?_, fun channo hc ↦ by cases hc⟩
  · rw [hline]
    exact ⟨rfl, rfl⟩
  · rw [hline]
    show IrqLine.Sound _ false .waiting
    refine ⟨by decide, fun _ ↦ rfl, by decide, by decide⟩

/-- A frame that does not come too late. -/
theorem sound_arrive {s : Micro} (h : s.Sound) (frame : Vector UInt8 16)
    (htime : IsPastReading s.point = false) : (s.arrive frame).Sound := by
  obtain ⟨hready, hsound, hcounted⟩ := h
  have hline := line_arrive frame s
  have hlatched : (s.arrive frame).latched = (s.latched || !s.dev.line.pending) := rfl
  have hpoint : (s.arrive frame).point = s.point := rfl
  refine ⟨?_, ?_, hcounted⟩
  · rw [hline]
    exact hready
  · rw [hline, hlatched, hpoint]
    generalize s.dev.line = l, s.latched = latched at hsound ⊢
    cases hp : s.point with
    | waiting =>
      rw [hp] at hsound
      obtain ⟨henabled, hedge, hpending, -⟩ := hsound
      refine ⟨henabled, fun hc ↦ ?_, ⟨fun _ ↦ ?_, fun _ ↦ rfl⟩, fun _ ↦ rfl⟩
      · cases hl : latched with
        | true => exact hedge hl
        | false =>
          rw [hl, Bool.false_or, Bool.not_eq_true'] at hc
          refine Decidable.byContradiction fun hfired ↦ ?_
          rw [hpending.mpr (.inr hfired)] at hc
          cases hc
      · cases hl : l.pending with
        | true =>
          rcases hpending.mp hl with he | hf
          · exact .inl (by rw [he, Bool.true_or])
          · exact .inr hf
        | false => exact .inl (by simp)
    | check =>
      rw [hp] at hsound
      obtain ⟨hpending, hl⟩ := hsound
      exact ⟨rfl, by rw [hl, hpending]; rfl⟩
    | read channo =>
      rw [hp] at hsound
      obtain ⟨hpending, hl⟩ := hsound
      exact ⟨rfl, by rw [hl, hpending]; rfl⟩
    | rearm channo p ok =>
      rw [hp] at htime
      cases htime
    | command channo p ok =>
      rw [hp] at htime
      cases htime
    | status =>
      rw [hp] at htime
      cases htime
    | enable =>
      rw [hp] at hsound
      obtain ⟨hpending, -⟩ := hsound
      have hedge : (latched || !l.pending) = true := by
        cases hl : l.pending with
        | true => rw [hpending.mp hl, Bool.true_or]
        | false => simp
      rw [hedge]
      exact ⟨by simp, by simp⟩

/-- The interrupt routine, when it does not run before the second enabling. -/
theorem sound_isr {s : Micro} (h : s.Sound)
    (htime : ¬ (s.point = .enable ∧ s.latched = true ∧ s.dev.radio.int0Enabled = true)) :
    s.isr.Sound := by
  by_cases hruns : (s.latched && s.dev.radio.int0Enabled) = true
  · obtain ⟨hready, hsound, hcounted⟩ := h
    have hisr : s.isr = { s with
        dev := { s.dev with radio := radioIrq s.dev.radio }, latched := false } := if_pos hruns
    obtain ⟨hlatched, henabled⟩ := Bool.and_eq_true_iff.mp hruns
    rw [hisr]
    refine ⟨hready, ?_, hcounted⟩
    dsimp only
    cases hp : s.point with
    | waiting =>
      rw [hp] at hsound
      obtain ⟨-, hedge, hpending, -⟩ := hsound
      have hfired : s.dev.radio.irqFired = 0 := hedge hlatched
      have hone : (radioIrq s.dev.radio).irqFired ≠ 0 := by
        have hval : (radioIrq s.dev.radio).irqFired = 0 + 1 := congrArg (· + 1) hfired
        rw [hval]
        decide
      exact ⟨⟨fun hc ↦ Bool.noConfusion hc, fun hc ↦ absurd hc hone⟩,
        fun hc ↦ Bool.noConfusion hc,
        ⟨fun _ ↦ .inr hone, fun _ ↦ hpending.mpr (.inl hlatched)⟩,
        fun _ ↦ hpending.mpr (.inl hlatched)⟩
    | enable => exact absurd ⟨hp, hlatched, henabled⟩ htime
    | check =>
      rw [hp] at hsound
      exact absurd (hsound.2.symm.trans hlatched) Bool.false_ne_true
    | read channo =>
      rw [hp] at hsound
      exact absurd (hsound.2.symm.trans hlatched) Bool.false_ne_true
    | rearm channo p ok =>
      rw [hp] at hsound
      exact absurd (hsound.2.1.symm.trans hlatched) Bool.false_ne_true
    | command channo p ok =>
      rw [hp] at hsound
      exact absurd (hsound.2.1.symm.trans hlatched) Bool.false_ne_true
    | status =>
      rw [hp] at hsound
      exact absurd (hsound.2.1.symm.trans hlatched) Bool.false_ne_true
  · have hisr : s.isr = s := if_neg hruns
    rw [hisr]
    exact h

/-- The client goes on with a line that is known. -/
theorem sound_of_line {s : Micro} {l : IrqLine} (hline : s.dev.line = l) (hready : l.Ready)
    (hsound : l.Sound s.latched s.point)
    (hcounted : ∀ channo, s.point = .read channo → 16 ≤ s.dev.radio.rxFifo) : s.Sound := by
  subst hline
  exact ⟨hready, hsound, hcounted⟩

private theorem sound_wake {s : Micro} (h : s.Sound) (hp : s.point = .waiting) (serial : Bool) :
    (s.wake serial).Sound := by
  obtain ⟨hready, hsound, hcounted⟩ := h
  have hwaiting := hp ▸ hsound
  unfold wake
  by_cases hwakes : Wakes serial s.dev.radio
  · rw [if_pos hwakes]
    dsimp only
    by_cases hfired : s.dev.radio.irqFired = 0
    · rw [if_neg (not_not_intro hfired)]
      have hline := line_rxloopSwitch s.dev.chip { s.dev.radio with threadOk := false }
      exact sound_of_line hline hready hsound fun channo hc ↦ by rw [hp] at hc; cases hc
    · rw [if_pos hfired]
      obtain ⟨-, hedge, hpending, -⟩ := hwaiting
      have hlatched : s.latched = false := Bool.eq_false_iff.mpr fun hl ↦ hfired (hedge hl)
      exact ⟨hready, ⟨hpending.mpr (.inr hfired), hlatched⟩, fun channo hc ↦ by cases hc⟩
  · rw [if_neg hwakes]
    exact ⟨hready, hsound, hcounted⟩

private theorem sound_check {s : Micro} (h : s.Sound) (hp : s.point = .check) :
    (s.check reply).Sound := by
  obtain ⟨hready, hsound, -⟩ := h
  rw [hp] at hsound
  obtain ⟨hpending, hlatched⟩ := hsound
  obtain ⟨hmany, hcount⟩ := libradioCheckRx_irq reply s.dev
  have hline : (s.check reply).dev.line = s.dev.line := line_libradioGetFifoInfo reply s.dev
  by_cases hfull : 16 ≤ s.dev.line.unread
  · have hpoint : (s.check reply).point = .read s.dev.radio.myChannel :=
      if_pos (hmany.trans (decide_eq_true hfull))
    refine sound_of_line hline hready ?_ fun _ _ ↦ hcount hfull
    rw [hpoint]
    exact ⟨hpending, hlatched⟩
  · have hpoint : (s.check reply).point =
        .command s.dev.radio.myChannel s.dev.rxchan.packet false := by
      refine if_neg ?_
      rw [hmany, decide_eq_false hfull]
      exact Bool.false_ne_true
    refine sound_of_line hline hready ?_ fun channo hc ↦ by rw [hpoint] at hc; cases hc
    rw [hpoint]
    exact ⟨hpending, hlatched, Nat.lt_of_not_le hfull⟩

/-- A bad packet clears the FIFO; behind a good one there is no second packet. -/
theorem sound_read {s : Micro} (h : s.Sound) {channo : UInt8} (hp : s.point = .read channo)
    (htime : s.front.checksum = 0 → s.dev.line.unread < 32) : (s.read reply channo).Sound := by
  obtain ⟨hready, hsound, hcounted⟩ := h
  rw [hp] at hsound
  obtain ⟨hpending, hlatched⟩ := hsound
  have hline := line_read reply channo (hcounted channo hp)
  obtain ⟨hkept, p, ok, hpoint⟩ := read_spec reply channo s
  have hfew : (if s.front.checksum = 0 then s.dev.line.unread - 16 else 0) < 16 := by
    split
    · next hgood =>
      have hone := htime hgood
      omega
    · decide
  generalize (if s.front.checksum = 0 then s.dev.line.unread - 16 else 0) = left at hline hfew
  refine sound_of_line hline hready ?_ fun _ hc ↦ by rw [hpoint] at hc; cases hc
  rw [hkept, hpoint]
  exact ⟨hpending, hlatched, hfew⟩

private theorem sound_rearm {s : Micro} (h : s.Sound) {channo : UInt8} {p : Packet} {ok : Bool}
    (hp : s.point = .rearm channo p ok) : (s.rearm channo p ok).Sound := by
  obtain ⟨hready, hsound, -⟩ := h
  rw [hp] at hsound
  exact sound_of_line (line_rearm channo p ok hready) hready hsound fun _ hc ↦ by cases hc

private theorem sound_command {app : App IrqChip} (happ : app.LeavesLine) (fuel : Nat) {s : Micro}
    (h : s.Sound) {channo : UInt8} {p : Packet} {ok : Bool}
    (hp : s.point = .command channo p ok) : (s.command reply app fuel channo p ok).Sound := by
  obtain ⟨hready, hsound, -⟩ := h
  rw [hp] at hsound
  exact sound_of_line (line_command reply happ fuel channo p ok hready) hready hsound
    fun _ hc ↦ by cases hc

private theorem sound_status {s : Micro} (h : s.Sound) (hp : s.point = .status) :
    (s.status reply).Sound := by
  obtain ⟨hready, hsound, -⟩ := h
  rw [hp] at hsound
  obtain ⟨-, hlatched, hfew⟩ := hsound
  refine sound_of_line (line_libradioGetIntStatus reply s.dev) hready ⟨?_, ?_⟩
    fun _ hc ↦ by cases hc
  · exact ⟨fun hc ↦ Bool.noConfusion hc, fun hc ↦ hlatched.symm.trans hc⟩
  · exact ⟨fun hc ↦ absurd (hlatched.symm.trans hc) Bool.false_ne_true,
      fun hc ↦ absurd hc (Nat.not_le_of_lt hfew)⟩

private theorem sound_enable {s : Micro} (h : s.Sound) (hp : s.point = .enable) :
    s.enable.Sound := by
  obtain ⟨hready, hsound, -⟩ := h
  rw [hp] at hsound
  obtain ⟨hpending, hfull⟩ := hsound
  refine sound_of_line (line_enable s) ⟨hready.1, rfl⟩ ⟨?_, fun _ ↦ rfl, ?_, ?_⟩
    fun _ hc ↦ by cases hc
  · exact ⟨fun _ ↦ rfl, fun _ ↦ rfl⟩
  · exact ⟨fun hc ↦ .inl (hpending.mp hc),
      fun hc ↦ hc.elim hpending.mpr fun hn ↦ absurd rfl hn⟩
  · exact fun hc ↦ hpending.mpr (hfull.mpr hc)

/-- One timely step. -/
theorem sound_step {app : App IrqChip} (happ : app.LeavesLine) (fuel : Nat) (s : Micro)
    (e : Happening) (h : s.Sound) (htime : s.Timely e) : (step reply app fuel s e).Sound := by
  cases e with
  | arrive frame => exact sound_arrive h frame htime
  | isr => exact sound_isr h htime
  | tick =>
    have hstep : step reply app fuel s .tick =
        { s with dev := { s.dev with radio := clocktick s.dev.radio } } := rfl
    have hline := line_clocktick s.dev.chip s.dev.radio
    have huntimed := congrArg Radio.rxFifo (untimed_clocktick s.dev.radio)
    have hcounted := h.counted
    rw [hstep]
    generalize clocktick s.dev.radio = r at hline huntimed ⊢
    have hfifo : r.rxFifo = s.dev.radio.rxFifo := huntimed
    refine sound_of_line hline h.ready h.line fun channo hc ↦ ?_
    dsimp only
    rw [hfifo]
    exact hcounted channo hc
  | proceed serial =>
    have hstep : step reply app fuel s (.proceed serial) = s.proceed reply app fuel serial := rfl
    rw [hstep]
    unfold proceed
    cases hp : s.point with
    | waiting => exact sound_wake h hp serial
    | check => exact sound_check reply h hp
    | read channo =>
      refine sound_read reply h hp fun hgood ↦ Nat.lt_of_not_le fun hmany ↦ ?_
      exact htime ⟨by rw [hp]; rfl, hgood, hmany⟩
    | rearm channo p ok => exact sound_rearm h hp
    | command channo p ok => exact sound_command reply happ fuel h hp
    | status => exact sound_status reply h hp
    | enable => exact sound_enable h hp

/-- Nothing is left behind by a client whose line is sound. -/
theorem noneStranded_of_sound {s : Micro} (h : s.Sound) : s.NoneStranded := by
  intro hp hfired hlatched
  have hsound := h.line
  rw [hp] at hsound
  obtain ⟨-, -, hpending, hfull⟩ := hsound
  refine Nat.lt_of_not_le fun hmany ↦ ?_
  rcases hpending.mp (hfull hmany) with hl | hf
  · exact Bool.false_ne_true (hlatched.symm.trans hl)
  · exact hf hfired

/-- A client that the radio has interrupted looks at the FIFO and goes on to read it. -/
theorem attends_of_fired {app : App IrqChip} (fuel : Nat) {s : Micro} (hp : s.point = .waiting)
    (hfired : s.dev.radio.irqFired ≠ 0) (hmany : 16 ≤ s.dev.line.unread) (serial : Bool) :
    (run (step reply app fuel) s [.proceed serial, .proceed serial]).point =
      .read s.dev.radio.myChannel := by
  obtain ⟨d, latched, point⟩ := s
  cases hp
  have hwake : step reply app fuel ⟨d, latched, .waiting⟩ (.proceed serial) =
      wake serial ⟨d, latched, .waiting⟩ := rfl
  have hcheck (d latched) : step reply app fuel ⟨d, latched, .check⟩ (.proceed serial) =
      check reply ⟨d, latched, .check⟩ := rfl
  have havail := (libradioCheckRx_irq reply
    { d with radio := libradioSetDelay 5 { d.radio with threadOk := false } }).1
  have hfull : 16 ≤ ({ d with
      radio := libradioSetDelay 5 { d.radio with threadOk := false } } : Dev IrqChip).line.unread :=
    hmany
  rw [decide_eq_true hfull] at havail
  rw [run_cons, run_cons, run_nil, hwake, wake, if_pos (.inl hfired)]
  dsimp only
  rw [if_pos hfired, hcheck]
  exact if_pos havail

/-- A packet in the FIFO has an interrupt that leads to its reading. -/
theorem attends_of_sound {app : App IrqChip} (fuel : Nat) {s : Micro} (h : s.Sound) :
    s.Attends reply app fuel := by
  intro hp hmany serial
  have hsound := h.line
  rw [hp] at hsound
  obtain ⟨henabled, hedge, hpending, hfull⟩ := hsound
  have hisr : step reply app fuel s .isr = s.isr := rfl
  rw [run_cons, hisr]
  rcases hpending.mp (hfull hmany) with hlatched | hfired
  · have hzero : s.dev.radio.irqFired = 0 := hedge hlatched
    have hruns : (s.latched && s.dev.radio.int0Enabled) = true :=
      Bool.and_eq_true_iff.mpr ⟨hlatched, henabled.mpr hzero⟩
    have hnew : s.isr = { s with
        dev := { s.dev with radio := radioIrq s.dev.radio }, latched := false } := if_pos hruns
    have hone : (radioIrq s.dev.radio).irqFired ≠ 0 := by
      have hval : (radioIrq s.dev.radio).irqFired = 0 + 1 := congrArg (· + 1) hzero
      rw [hval]
      decide
    rw [hnew]
    exact attends_of_fired reply fuel (s := { s with
      dev := { s.dev with radio := radioIrq s.dev.radio }, latched := false }) hp hone hmany serial
  · have hquiet : ¬ (s.latched && s.dev.radio.int0Enabled) = true := fun hruns ↦
      hfired (hedge (Bool.and_eq_true_iff.mp hruns).1)
    have hsame : s.isr = s := if_neg hquiet
    rw [hsame]
    exact attends_of_fired reply fuel hp hfired hmany serial

/-! ### A step that is not timely strands a packet -/

-- If it is stranded after one more step of the client, it is stranded.
private theorem stranded_of_step {app : App IrqChip} {fuel : Nat} {s : Micro} {serial : Bool}
    (h : ∃ n, ¬ (run (step reply app fuel) (step reply app fuel s (.proceed serial))
      (List.replicate n (.proceed serial))).NoneStranded) :
    ∃ n, ¬ (run (step reply app fuel) s (List.replicate n (.proceed serial))).NoneStranded := by
  obtain ⟨n, hn⟩ := h
  refine ⟨n + 1, ?_⟩
  rw [List.replicate_succ, run_cons]
  exact hn

/-- From the end of the pass: the second enabling forgets what the flag says. -/
theorem stranded_of_enable {app : App IrqChip} (fuel : Nat) {s : Micro} (h : s.Missed)
    (hp : s.point = .enable) (serial : Bool) :
    ∃ n, ¬ (run (step reply app fuel) s (List.replicate n (.proceed serial))).NoneStranded := by
  have hstep : step reply app fuel s (.proceed serial) = s.proceed reply app fuel serial := rfl
  refine ⟨1, fun hnone ↦ ?_⟩
  rw [List.replicate_one, run_cons, run_nil, hstep, proceed, hp] at hnone
  dsimp only at hnone
  have hline := line_enable s
  have hfired : s.enable.dev.line.irqFired = 0 := by rw [hline]
  have hunread : s.enable.dev.line.unread = s.dev.line.unread := by rw [hline]
  have hfew : s.enable.dev.line.unread < 16 := hnone rfl hfired h.latched
  rw [hunread] at hfew
  exact absurd h.unread (Nat.not_le_of_lt hfew)

/-- From anywhere behind the reading. -/
theorem stranded_of_missed {app : App IrqChip} (happ : app.LeavesLine) (fuel : Nat) {s : Micro}
    (h : s.Missed) (hp : IsPastReading s.point = true) (serial : Bool) :
    ∃ n, ¬ (run (step reply app fuel) s (List.replicate n (.proceed serial))).NoneStranded := by
  have hstep (s : Micro) : step reply app fuel s (.proceed serial) =
      s.proceed reply app fuel serial := rfl
  have hstatus {s : Micro} (h : s.Missed) (hp : s.point = .status) :
      ∃ n, ¬ (run (step reply app fuel) s (List.replicate n (.proceed serial))).NoneStranded := by
    refine stranded_of_step reply (stranded_of_enable reply fuel ?_ ?_ serial)
    · rw [hstep, proceed, hp]
      have hline := line_libradioGetIntStatus reply s.dev
      exact ⟨hline ▸ h.ready, h.latched, hline ▸ h.unread⟩
    · rw [hstep, proceed, hp]
      rfl
  have hcommand {s : Micro} (channo : UInt8) (p : Packet) (ok : Bool) (h : s.Missed)
      (hp : s.point = .command channo p ok) :
      ∃ n, ¬ (run (step reply app fuel) s (List.replicate n (.proceed serial))).NoneStranded := by
    refine stranded_of_step reply (hstatus ?_ ?_)
    · rw [hstep, proceed, hp]
      have hline := line_command reply happ fuel channo p ok h.ready
      exact ⟨hline ▸ h.ready, h.latched, hline ▸ h.unread⟩
    · rw [hstep, proceed, hp]
      rfl
  cases hpoint : s.point with
  | rearm channo p ok =>
    refine stranded_of_step reply (hcommand channo p ok ?_ ?_)
    · rw [hstep, proceed, hpoint]
      have hline := line_rearm channo p ok h.ready
      exact ⟨hline ▸ h.ready, h.latched, hline ▸ h.unread⟩
    · rw [hstep, proceed, hpoint]
      rfl
  | command channo p ok => exact hcommand channo p ok h hpoint
  | status => exact hstatus h hpoint
  | _ =>
    rw [hpoint] at hp
    cases hp

/-- A frame behind the reading has no edge of its own; a second packet behind the one that is
read has none either; an edge that is taken before the second enabling is forgotten there. -/
theorem stranded_of_not_timely {app : App IrqChip} (happ : app.LeavesLine) (fuel : Nat)
    {s : Micro} (h : s.Sound) {e : Happening} (hlate : ¬ s.Timely e) (serial : Bool) :
    ∃ n, ¬ (run (step reply app fuel) (step reply app fuel s e)
      (List.replicate n (.proceed serial))).NoneStranded := by
  obtain ⟨hready, hsound, hcounted⟩ := h
  cases e with
  | arrive frame =>
    have hstep : step reply app fuel s (.arrive frame) = s.arrive frame := rfl
    have hpast : IsPastReading s.point = true := by
      unfold Timely at hlate
      simpa using hlate
    have hquiet : s.dev.line.pending = true ∧ s.latched = false := by
      cases hp : s.point with
      | rearm channo p ok =>
        rw [hp] at hsound
        exact ⟨hsound.1, hsound.2.1⟩
      | command channo p ok =>
        rw [hp] at hsound
        exact ⟨hsound.1, hsound.2.1⟩
      | status =>
        rw [hp] at hsound
        exact ⟨hsound.1, hsound.2.1⟩
      | _ =>
        rw [hp] at hpast
        cases hpast
    have hline := line_arrive frame s
    have hlatched : (s.arrive frame).latched = (s.latched || !s.dev.line.pending) := rfl
    rw [hstep]
    refine stranded_of_missed reply happ fuel (s := s.arrive frame) ⟨?_, ?_, ?_⟩ hpast serial
    · rw [hline]
      exact hready
    · rw [hlatched, hquiet.1, hquiet.2]
      rfl
    · rw [hline]
      exact Nat.le_add_left 16 _
  | isr =>
    obtain ⟨hp, hlatched, henabled⟩ := Decidable.not_not.mp hlate
    have hstep : step reply app fuel s .isr = s.isr := rfl
    have hruns : (s.latched && s.dev.radio.int0Enabled) = true :=
      Bool.and_eq_true_iff.mpr ⟨hlatched, henabled⟩
    have hisr : s.isr = { s with
        dev := { s.dev with radio := radioIrq s.dev.radio }, latched := false } := if_pos hruns
    rw [hp] at hsound
    rw [hstep, hisr]
    exact stranded_of_enable reply fuel (s := { s with
      dev := { s.dev with radio := radioIrq s.dev.radio }, latched := false })
      ⟨hready, rfl, hsound.2.mp hlatched⟩ hp serial
  | tick => exact absurd trivial hlate
  | proceed serial' =>
    obtain ⟨hreading, hgood, hmany⟩ := Decidable.not_not.mp hlate
    obtain ⟨channo, hp⟩ : ∃ channo, s.point = .read channo := by
      cases hp : s.point with
      | read channo => exact ⟨channo, rfl⟩
      | _ =>
        rw [hp] at hreading
        cases hreading
    have hstep : step reply app fuel s (.proceed serial') = s.read reply channo := by
      have hproceed : step reply app fuel s (.proceed serial') =
          s.proceed reply app fuel serial' := rfl
      rw [hproceed, proceed, hp]
    have hline := line_read reply channo (hcounted channo hp)
    obtain ⟨hkept, p, ok, hpoint⟩ := read_spec reply channo s
    have hunread : 32 ≤ s.dev.line.unread := hmany
    rw [hp] at hsound
    rw [if_pos hgood] at hline
    rw [hstep]
    refine stranded_of_missed reply happ fuel ⟨?_, hkept.trans hsound.2, ?_⟩ ?_ serial
    · rw [hline]
      exact hready
    · rw [hline]
      exact Nat.le_sub_of_add_le hunread
    · rw [hpoint]
      rfl

/-- In every run of timely steps nothing is ever left behind: a client that is waiting without
an interrupt has no whole packet in its FIFO, and one that is waiting with a packet comes to
read it. After such a run any step that is not timely leaves a packet behind if nothing more
happens to the client than that it goes on. -/
theorem none_stranded_of_timely {app : App IrqChip} (happ : app.LeavesLine) (fuel : Nat)
    (id : Client.Identity) (fast slow : UInt8) (d : Dev IrqChip) (happenings : List Happening)
    (htimely : Along (step reply app fuel) Timely (start reply id fast slow d) happenings) :
    (∀ pre, pre <+: happenings →
      (run (step reply app fuel) (start reply id fast slow d) pre).NoneStranded ∧
        (run (step reply app fuel) (start reply id fast slow d) pre).Attends reply app fuel) ∧
      ∀ e, ¬ (run (step reply app fuel) (start reply id fast slow d) happenings).Timely e →
        ∀ serial, ∃ n, ¬ (run (step reply app fuel) (start reply id fast slow d)
          (happenings ++ e :: List.replicate n (.proceed serial))).NoneStranded := by
  have hstart := sound_start reply id fast slow d
  have hsound (pre : List Happening) (hpre : pre <+: happenings) :
      (run (step reply app fuel) (start reply id fast slow d) pre).Sound := by
    obtain ⟨post, rfl⟩ := hpre
    exact run_inv _ (sound_step reply happ fuel) hstart ((along_append _ _ _ _ _).mp htimely).1
  refine ⟨fun pre hpre ↦ ?_, fun e hlate serial ↦ ?_⟩
  · exact ⟨noneStranded_of_sound (hsound pre hpre), attends_of_sound reply fuel (hsound pre hpre)⟩
  · obtain ⟨n, hn⟩ := stranded_of_not_timely reply happ fuel
      (hsound happenings (List.prefix_refl _)) hlate serial
    exact ⟨n, by rw [run_append, run_cons]; exact hn⟩

end Steps

-- A radio in RX on channel 0 that has nothing to say otherwise.
private def plainReply (_ i : Nat) : UInt8 := if i = 0 then SI4463_STATE_RX else 0

-- The frame of an activation.
private def activationFrame : Vector UInt8 16 :=
  .ofFn fun i ↦ (((Client.activation ⟨127, 1, 0, 1⟩ 2 5).stamp 0).frame).getD i.val 0

-- A client with an empty FIFO that has just been started.
private def freshStart : Micro :=
  start plainReply ⟨127, 1, 0, 1⟩ 1 16
    (Client.powerOn ⟨⟨[], [], [], 0, 0⟩, false⟩)

-- A frame that is read, and a second one in time for the next pass.
private def oneByOne : List Happening :=
  [.arrive activationFrame, .isr] ++ List.replicate 6 (.proceed false) ++
    [.arrive activationFrame, .proceed false, .isr] ++ List.replicate 7 (.proceed false)

/-- Both frames are read. -/
theorem none_stranded_one_by_one :
    (run (step plainReply Client.idleApp 0) freshStart oneByOne).NoneStranded :=
  ((none_stranded_of_timely plainReply Client.leavesLine_idleApp 0 ⟨127, 1, 0, 1⟩ 1 16
    (Client.powerOn ⟨⟨[], [], [], 0, 0⟩, false⟩) oneByOne (by decide +kernel)).1 oneByOne
    (List.prefix_refl _)).1

-- A second frame between the reading of the first and GET_INT_STATUS.
private def behindReading : List Happening :=
  [.arrive activationFrame, .isr] ++ List.replicate 3 (.proceed false) ++
    [.arrive activationFrame] ++ List.replicate 4 (.proceed false)

/-- Then the client waits with a packet in the FIFO and no interrupt. -/
theorem stranded_behind_reading :
    ¬ (run (step plainReply Client.idleApp 0) freshStart behindReading).NoneStranded := by
  have hrun : (run (step plainReply Client.idleApp 0) freshStart behindReading).point = .waiting ∧
      (run (step plainReply Client.idleApp 0) freshStart behindReading).dev.radio.irqFired = 0 ∧
      (run (step plainReply Client.idleApp 0) freshStart behindReading).latched = false ∧
      ¬ (run (step plainReply Client.idleApp 0) freshStart
        behindReading).dev.chip.chip.rxFifo.length < 16 := by
    decide +kernel
  exact fun h ↦ hrun.2.2.2 (h hrun.1 hrun.2.1 hrun.2.2.1)

end Micro

end Libradio
