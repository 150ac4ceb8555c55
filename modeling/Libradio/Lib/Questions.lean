import Libradio.Lib.Rxtx
import Libradio.Lib.Station

/-!
# Questions to the radio

The questions that the library asks the radio change nothing but the chip and the variables
that mirror it. What holds of the chip across them is a parameter. A power-up is a series of
questions whose outcome is kept in two variables; a send asks, powers up and transmits.
-/

namespace Libradio

variable {σ : Type}

/-- The variables of the radio that do not mirror the chip. -/
def Radio.own (r : Radio) : Radio :=
  { r with currChannel := 0, currState := 0, txFifo := 0, rxFifo := 0 }

/-- A relation between states of the chip that holds across everything but START_TX, START_RX
and the filling of the transmit FIFO. -/
structure Board.Keeps (b : Board σ) (R : σ → σ → Prop) : Prop where
  refl : ∀ w, R w w
  trans : ∀ {u v w}, R u v → R v w → R u w
  exchange : ∀ w cmd n, cmd.head? ≠ some SI4463_START_TX → cmd.head? ≠ some SI4463_START_RX →
    R w (b.exchange w cmd n).1
  readRxFifo : ∀ w n, R w (b.readRxFifo w n).1

/-- Nothing at all is said about the chip. -/
theorem Board.keeps_true (b : Board σ) : b.Keeps fun _ _ ↦ True :=
  ⟨fun _ ↦ trivial, fun _ _ ↦ trivial, fun _ _ _ _ _ ↦ trivial, fun _ _ ↦ trivial⟩

/-- The device differs in the chip and in what mirrors it only. -/
structure Asked (R : σ → σ → Prop) (d d' : Dev σ) : Prop where
  chip : R d.chip d'.chip
  radio : d'.radio.own = d.radio.own
  eeprom : d'.eeprom = d.eeprom
  rxchan : d'.rxchan = d.rxchan
  txchan : d'.txchan = d.txchan
  statusbuffer : d'.statusbuffer = d.statusbuffer
  beyondData : d'.beyondData = d.beyondData

/-- A change of the radio's variables before some questions can be made after them. -/
theorem Asked.map {R : σ → σ → Prop} {d d' : Dev σ} (h : Asked R d d') {f : Radio → Radio}
    (hf : ∀ r, (f r).own = f r.own) :
    Asked R { d with radio := f d.radio } { d' with radio := f d'.radio } :=
  ⟨h.chip, by rw [hf, hf, h.radio], h.eeprom, h.rxchan, h.txchan, h.statusbuffer, h.beyondData⟩

section Questions

variable {b : Board σ} {R : σ → σ → Prop} (hb : b.Keeps R)

include hb

/-- Nothing was asked. -/
theorem Asked.refl (d : Dev σ) : Asked R d d := ⟨hb.refl d.chip, rfl, rfl, rfl, rfl, rfl, rfl⟩

/-- One question after another. -/
theorem Asked.trans {d e f : Dev σ} (h₁ : Asked R d e) (h₂ : Asked R e f) : Asked R d f :=
  ⟨hb.trans h₁.chip h₂.chip, h₂.radio.trans h₁.radio, h₂.eeprom.trans h₁.eeprom,
    h₂.rxchan.trans h₁.rxchan, h₂.txchan.trans h₁.txchan,
    h₂.statusbuffer.trans h₁.statusbuffer, h₂.beyondData.trans h₁.beyondData⟩

/-- The question for the device's state only asks. -/
theorem asked_libradioRequestDeviceStatus (d : Dev σ) :
    Asked R d (libradioRequestDeviceStatus b d).1 := by
  have hchip := hb.exchange d.chip [SI4463_REQUEST_DEVICE_STATE] 2 (by decide) (by decide)
  unfold libradioRequestDeviceStatus
  split
  · next w v he => exact ⟨by rwa [he] at hchip, rfl, rfl, rfl, rfl, rfl, rfl⟩
  · next w e he => exact ⟨by rwa [he] at hchip, rfl, rfl, rfl, rfl, rfl, rfl⟩

/-- The question for the FIFOs only asks. -/
theorem asked_libradioGetFifoInfo (clrf : UInt8) (d : Dev σ) :
    Asked R d (libradioGetFifoInfo b clrf d).1 := by
  have hchip := hb.exchange d.chip [SI4463_FIFO_INFO, clrf] 2
    (by simp only [List.head?_cons]; decide) (by simp only [List.head?_cons]; decide)
  unfold libradioGetFifoInfo
  split
  · next w v he => exact ⟨by rwa [he] at hchip, rfl, rfl, rfl, rfl, rfl, rfl⟩
  · next w e he => exact ⟨by rwa [he] at hchip, rfl, rfl, rfl, rfl, rfl, rfl⟩

/-- The question for the interrupts only asks. -/
theorem asked_libradioGetIntStatus (d : Dev σ) : Asked R d (libradioGetIntStatus b d) :=
  ⟨hb.exchange d.chip [SI4463_GET_INT_STATUS, 0, 0, 0] 8 (by decide) (by decide), rfl, rfl, rfl,
    rfl, rfl, rfl⟩

private theorem asked_storeOnly (cmd : List UInt8) (n : Nat) (d : Dev σ)
    (htx : cmd.head? ≠ some SI4463_START_TX) (hrx : cmd.head? ≠ some SI4463_START_RX) :
    Asked R d (storeOnly b cmd n d) :=
  ⟨hb.exchange d.chip cmd n htx hrx, rfl, rfl, rfl, rfl, rfl, rfl⟩

/-- Sending the table is a series of questions. -/
theorem asked_sendConfiguration (entries : List (List UInt8)) (d : Dev σ)
    (htx : ∀ e ∈ entries, e.head? ≠ some SI4463_START_TX)
    (hrx : ∀ e ∈ entries, e.head? ≠ some SI4463_START_RX) :
    Asked R d (sendConfiguration b entries d).1 := by
  induction entries generalizing d with
  | nil => exact .refl hb d
  | cons entry rest ih =>
    have hchip := hb.exchange d.chip entry 0 (htx entry List.mem_cons_self)
      (hrx entry List.mem_cons_self)
    unfold sendConfiguration
    split
    · next w v he =>
      rw [he] at hchip
      have hentry : Asked R d { d with chip := w } := ⟨hchip, rfl, rfl, rfl, rfl, rfl, rfl⟩
      exact hentry.trans hb (ih _ (fun e h ↦ htx e (List.mem_cons_of_mem _ h))
        fun e h ↦ hrx e (List.mem_cons_of_mem _ h))
    · next w v he =>
      rw [he] at hchip
      exact ⟨hchip, rfl, rfl, rfl, rfl, rfl, rfl⟩

end Questions

/-- Going to ERROR does not look at what mirrors the chip. -/
theorem own_libradioSetState_error (r : Radio) :
    (libradioSetState LIBRADIO_STATE_ERROR r).own =
      libradioSetState LIBRADIO_STATE_ERROR r.own := by
  unfold libradioSetState
  by_cases h : r.state = LIBRADIO_STATE_ERROR
  · rw [if_pos ⟨by decide, h⟩, if_pos ⟨by decide, h⟩]
  · rw [if_neg fun hc ↦ h hc.2, if_neg fun hc ↦ h hc.2]
    rfl

/-- How a power-up ends: the radio is powered up already, it answers every entry of the
table, or it fails one of them and the station goes to ERROR. -/
inductive PoweredUp (R : σ → σ → Prop) (d : Dev σ) (r : Dev σ × Bool) : Prop
  | already (active : d.radio.radioActive = true) (eq : r = (d, true))
  | done (asleep : d.radio.radioActive = false) (ok : r.2 = true)
      (asked : Asked R { d with radio := { d.radio with radioActive := true } } r.1)
  | failed (asleep : d.radio.radioActive = false) (ok : r.2 = false)
      (asked : Asked R { d with radio := libradioSetState LIBRADIO_STATE_ERROR d.radio } r.1)

-- No entry of the table starts a transmission or a reception.
private theorem radioConfiguration_plain : ∀ e ∈ radioConfiguration,
    e.head? ≠ some SI4463_START_TX ∧ e.head? ≠ some SI4463_START_RX := by decide

/-- Every power-up ends in one of the three ways. -/
theorem poweredUp_libradioPowerUp {b : Board σ} {R : σ → σ → Prop} (hb : b.Keeps R)
    (d : Dev σ) : PoweredUp R d (libradioPowerUp b d) := by
  unfold libradioPowerUp
  split
  · next h => exact .already h rfl
  · next h =>
    have hasleep : d.radio.radioActive = false := by simpa using h
    have hconf := asked_sendConfiguration hb radioConfiguration d
      (fun e he ↦ (radioConfiguration_plain e he).1) fun e he ↦ (radioConfiguration_plain e he).2
    dsimp only
    generalize sendConfiguration b radioConfiguration d = c at hconf ⊢
    split
    · refine .done hasleep rfl ?_
      have hchip := hconf.trans hb
        (asked_storeOnly hb [SI4463_GET_CHIP_STATUS, 0x7f] 3 c.1 (by decide) (by decide))
      have hpart := hchip.trans hb
        (asked_storeOnly hb [SI4463_PART_INFO] 8 _ (by decide) (by decide))
      have hfunc := hpart.trans hb
        (asked_storeOnly hb [SI4463_FUNC_INFO] 6 _ (by decide) (by decide))
      have hint := hfunc.trans hb (asked_libradioGetIntStatus hb _)
      have hstate := hint.trans hb (asked_libradioRequestDeviceStatus hb _)
      exact (hstate.trans hb (asked_libradioGetFifoInfo hb 3 _)).map
        (f := fun r ↦ { r with radioActive := true }) fun _ ↦ rfl
    · exact .failed hasleep rfl (hconf.map own_libradioSetState_error)

end Libradio
